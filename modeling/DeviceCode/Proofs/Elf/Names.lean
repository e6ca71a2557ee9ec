import DeviceCode.Elf.Draft
import DeviceCode.Elf.StringTable

/-!
# Names that are packed and looked up

`Draft.packNames` writes each name once more and remembers where; `StringTable.nameAt?` reads from
there up to the next zero byte. That gives the name back because a name without the zero character
has no zero byte in UTF-8, and the byte after it is one. An empty name points at the front of the
table, which starts with a zero byte.
-/

namespace DeviceCode

namespace Text

@[simp] theorem utf8_append (s t : String) : utf8 (s ++ t) = utf8 s ++ utf8 t := by
  simp [utf8]

theorem utf8_eq_flatMap (s : String) : utf8 s = s.toList.flatMap String.utf8EncodeChar := by
  rw [utf8, ← String.utf8Encode_toList]
  simp [List.utf8Encode]

theorem utf8_zero : utf8 "\x00" = [0] := rfl

theorem mod_eq_zero_of_ofNat {n : Nat} (h : 0 = UInt8.ofNat n) : n % 256 = 0 := by
  have := congrArg UInt8.toNat h
  simpa using this.symm

/-- Only the zero character has a zero byte: all bytes of a longer encoding have a high bit. -/
theorem zero_not_mem_encodeChar {c : Char} (hc : c ≠ '\x00') : 0 ∉ String.utf8EncodeChar c := by
  intro h
  have hpos : c.val.toNat ≠ 0 := fun h => hc (Char.ext (UInt32.toNat_inj.mp h))
  rw [String.utf8EncodeChar] at h
  split at h
  · have := mod_eq_zero_of_ofNat (List.mem_singleton.mp h)
    omega
  · split at h
    · simp only [List.mem_cons, List.not_mem_nil, or_false] at h
      rcases h with h | h <;> have := mod_eq_zero_of_ofNat h <;> omega
    · split at h
      · simp only [List.mem_cons, List.not_mem_nil, or_false] at h
        rcases h with h | h | h <;> have := mod_eq_zero_of_ofNat h <;> omega
      · simp only [List.mem_cons, List.not_mem_nil, or_false] at h
        rcases h with h | h | h | h <;> have := mod_eq_zero_of_ofNat h <;> omega

theorem zero_not_mem_utf8 {s : String} (hs : '\x00' ∉ s.toList) : 0 ∉ utf8 s := by
  rw [utf8_eq_flatMap, List.mem_flatMap]
  rintro ⟨c, hc, h⟩
  exact zero_not_mem_encodeChar (fun h => hs (h ▸ hc)) h

end Text

namespace Elf

namespace Draft

open Text (utf8)

/-- A name can be told from the zero byte that ends it. -/
def Nameable (name : String) : Prop := '\x00' ∉ name.toList

instance (name : String) : Decidable (Nameable name) :=
  inferInstanceAs (Decidable ('\x00' ∉ name.toList))

/-- Bytes in the string table of these names: one in front, and one after each name that is not
empty. -/
def nameRoom : List String → Nat
  | [] => 1
  | name :: rest => (if name = "" then 0 else (utf8 name).length + 1) + nameRoom rest

@[simp] theorem packNames_empty (cursor : Nat) (rest : List String) :
    packNames cursor ("" :: rest) = (0 :: (packNames cursor rest).1, (packNames cursor rest).2) :=
  rfl

theorem packNames_cons (cursor : Nat) {name : String} (hname : name ≠ "") (rest : List String) :
    packNames cursor (name :: rest) =
      (cursor :: (packNames (cursor + (utf8 name ++ [0]).length) rest).1,
        utf8 name ++ [0] ++ (packNames (cursor + (utf8 name ++ [0]).length) rest).2) := by
  rw [packNames, if_neg hname]

@[simp] theorem length_packNames (cursor : Nat) (names : List String) :
    (packNames cursor names).1.length = names.length := by
  induction names generalizing cursor with
  | nil => rfl
  | cons name rest ih =>
    by_cases hname : name = ""
    · subst hname
      rw [packNames_empty, List.length_cons, ih, List.length_cons]
    · rw [packNames_cons cursor hname, List.length_cons, ih, List.length_cons]

theorem length_packNames_bytes (cursor : Nat) (names : List String) :
    1 + (packNames cursor names).2.length = nameRoom names := by
  induction names generalizing cursor with
  | nil => rfl
  | cons name rest ih =>
    rw [nameRoom]
    by_cases hname : name = ""
    · subst hname
      rw [packNames_empty, if_pos rfl, Nat.zero_add, ih cursor]
    · have hrest := ih (cursor + (utf8 name ++ [0]).length)
      rw [packNames_cons cursor hname, if_neg hname, ← hrest]
      simp only [List.length_append, List.length_singleton]
      omega

/-- What is packed is a text itself, zero characters included. -/
theorem packNames_spells (cursor : Nat) (names : List String) :
    ∃ s, (packNames cursor names).2 = utf8 s := by
  induction names generalizing cursor with
  | nil => exact ⟨"", rfl⟩
  | cons name rest ih =>
    by_cases hname : name = ""
    · subst hname
      exact ih cursor
    · obtain ⟨s, hs⟩ := ih (cursor + (utf8 name ++ [0]).length)
      refine ⟨name ++ "\x00" ++ s, ?_⟩
      rw [packNames_cons cursor hname, hs, Text.utf8_append, Text.utf8_append, Text.utf8_zero]

/-- Every name starts before the first byte that is free after them. -/
theorem packNames_lt {cursor : Nat} (hcursor : 0 < cursor) (names : List String) :
    ∀ offset ∈ (packNames cursor names).1, offset < cursor + (packNames cursor names).2.length := by
  induction names generalizing cursor with
  | nil => intro offset h; nomatch h
  | cons name rest ih =>
    intro offset h
    by_cases hname : name = ""
    · subst hname
      rcases List.mem_cons.mp h with rfl | h
      · exact Nat.lt_of_lt_of_le hcursor (Nat.le_add_right _ _)
      · exact ih hcursor offset h
    · have hfree : 0 < cursor + (utf8 name ++ [0]).length := by omega
      have hrest := ih hfree offset
      rw [packNames_cons cursor hname] at h ⊢
      simp only [List.length_append, List.length_singleton] at hrest h ⊢
      rcases List.mem_cons.mp h with rfl | h
      · omega
      · have := hrest h
        omega

/-- The name that starts after `front` ends at the first zero byte. -/
theorem nameAt?_length {name : String} (hname : Nameable name) (front rest : Bytes) :
    StringTable.nameAt? ⟨front ++ (utf8 name ++ 0 :: rest)⟩ front.length = some name := by
  have hfree : ∀ b ∈ utf8 name, decide (b ≠ 0) = true := by
    intro b hb
    have : b ≠ 0 := fun h => Text.zero_not_mem_utf8 hname (h ▸ hb)
    exact decide_eq_true this
  have hlt : front.length < (front ++ (utf8 name ++ 0 :: rest)).length := by
    simp only [List.length_append, List.length_cons]
    omega
  rw [StringTable.nameAt?, if_pos hlt, List.drop_left,
    List.takeWhile_append_of_pos hfree, List.takeWhile_cons_of_neg (by simp), List.append_nil,
    Text.ofUtf8?_utf8]

/-- Each packed name is found at its offset, whatever stands in front of them all. -/
theorem packNames_found {names : List String} (hnames : ∀ name ∈ names, Nameable name)
    (front : Bytes) :
    (packNames (0 :: front).length names).1.map
        (StringTable.nameAt? ⟨0 :: front ++ (packNames (0 :: front).length names).2⟩) =
      names.map some := by
  induction names generalizing front with
  | nil => rfl
  | cons name rest ih =>
    have hhead : Nameable name := hnames name List.mem_cons_self
    have hrest : ∀ name ∈ rest, Nameable name := fun n h => hnames n (List.mem_cons_of_mem _ h)
    -- an empty name reads the byte in front of the table, any other one its own bytes
    by_cases hname : name = ""
    · subst hname
      have hfirst := nameAt?_length hhead [] (front ++ (packNames (0 :: front).length rest).2)
      rw [packNames_empty, List.map_cons, ih hrest front, List.map_cons]
      exact congrArg (· :: rest.map some) hfirst
    · have h := ih hrest (front ++ (utf8 name ++ [0]))
      have hfirst := nameAt?_length hhead (0 :: front)
        (packNames ((0 :: front).length + (utf8 name ++ [0]).length) rest).2
      rw [← List.cons_append, List.length_append] at h
      rw [packNames_cons _ hname, List.map_cons, List.map_cons, ← List.append_assoc, h]
      rw [← hfirst]
      simp only [List.append_assoc, List.singleton_append]

/-! ## The table of names -/

theorem length_nameTable (names : List String) : (nameTable names).length = nameRoom names := by
  rw [nameTable, List.length_cons, Nat.add_comm, length_packNames_bytes]

theorem ofBytes?_nameTable (names : List String) :
    StringTable.ofBytes? (nameTable names) = some ⟨nameTable names⟩ := by
  obtain ⟨s, hs⟩ := packNames_spells 1 names
  have htable : nameTable names = utf8 ("\x00" ++ s) := by
    rw [Text.utf8_append, Text.utf8_zero, nameTable, hs]
    rfl
  rw [StringTable.ofBytes?, htable, Text.ofUtf8?_utf8]
  rfl

@[simp] theorem length_nameOffsets (names : List String) :
    (nameOffsets names).length = names.length :=
  length_packNames 1 names

theorem nameOffsets_lt (names : List String) :
    ∀ offset ∈ nameOffsets names, offset < nameRoom names := by
  intro offset h
  have := packNames_lt Nat.one_pos names offset h
  rwa [length_packNames_bytes] at this

theorem nameOffsets_found {names : List String} (hnames : ∀ name ∈ names, Nameable name) :
    (nameOffsets names).map (StringTable.nameAt? ⟨nameTable names⟩) = names.map some :=
  packNames_found hnames []

end Draft

end Elf

end DeviceCode
