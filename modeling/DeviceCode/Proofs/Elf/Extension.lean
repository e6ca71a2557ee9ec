import DeviceCode.Elf.Object

/-!
# Objects with more bytes behind them

What an object says when it is read from some bytes, it also says when more bytes follow: the
header, the section headers, every symbol table that can be read, and so the undefined names, the
declared sizes and the extent (`Object.Extends`). More can be read from the longer image, never
something else: all bounds are checked before anything is read, and a reader that has found enough
bytes does not look at what follows (`Reader.Steady`).
-/

namespace DeviceCode

variable {α β : Type}

namespace Reader

/-- More bytes at the end stay unread. -/
def Steady (r : Reader α) : Prop :=
  ∀ bs a rest, r.run bs = some (a, rest) → ∀ more, r.run (bs ++ more) = some (a, rest ++ more)

theorem steady_pure (a : α) : (pure a : Reader α).Steady := by
  intro bs b rest h more
  cases h
  rfl

theorem Steady.bind {r : Reader α} {k : α → Reader β} (h : r.Steady) (hk : ∀ a, (k a).Steady) :
    (r >>= k).Steady := by
  intro bs b rest hrun more
  rw [StateT.run_bind] at hrun
  obtain ⟨⟨a, mid⟩, hfirst, hsecond⟩ := Option.bind_eq_some_iff.mp hrun
  rw [StateT.run_bind, h bs a mid hfirst more]
  exact hk a mid b rest hsecond more

theorem Steady.map {r : Reader α} (h : r.Steady) (f : α → β) : (f <$> r).Steady := by
  rw [map_eq_pure_bind]
  exact h.bind fun a => steady_pure (f a)

theorem number_steady (order : ByteOrder) (w : Nat) : (number order w).Steady := by
  intro bs n rest h more
  unfold number at h ⊢
  simp only [StateT.run] at h ⊢
  split at h
  · next hw =>
    cases h
    have hlonger : w ≤ (bs ++ more).length := by
      rw [List.length_append]
      omega
    rw [if_pos hlonger, List.take_append_of_le_length hw, List.drop_append_of_le_length hw]
  · cases h

theorem byte_steady : byte.Steady := (number_steady _ _).map _

theorem half_steady (order : ByteOrder) : (half order).Steady := (number_steady _ _).map _

theorem full_steady (order : ByteOrder) : (full order).Steady := (number_steady _ _).map _

theorem times_steady {r : Reader α} (h : r.Steady) (n : Nat) : (times n r).Steady := by
  induction n with
  | zero => exact steady_pure []
  | succ n ih => exact h.bind fun a => ih.bind fun rest => steady_pure (a :: rest)

end Reader

namespace Bytes

variable {bs : Bytes} {offset size : Nat}

theorem Holds.append (h : Holds bs offset size) (more : Bytes) :
    Holds (bs ++ more) offset size := by
  unfold Holds at h ⊢
  rw [List.length_append]
  omega

theorem slice_append (h : Holds bs offset size) (more : Bytes) :
    slice (bs ++ more) offset size = slice bs offset size := by
  unfold Holds at h
  unfold slice
  rw [List.drop_append_of_le_length (by omega), List.take_append_of_le_length]
  rw [List.length_drop]
  omega

end Bytes

namespace Elf

open Reader

theorem Format.word_steady (f : Format) : f.word.Steady := (number_steady _ _).map _

theorem SectionHeader.decode_steady (f : Format) : (SectionHeader.decode f).Steady :=
  (full_steady _).bind fun _ => (full_steady _).bind fun _ => f.word_steady.bind fun _ =>
    f.word_steady.bind fun _ => f.word_steady.bind fun _ => f.word_steady.bind fun _ =>
    (full_steady _).bind fun _ => (full_steady _).bind fun _ => f.word_steady.bind fun _ =>
    f.word_steady.bind fun _ => steady_pure _

theorem SymbolEntry.decode_steady (f : Format) : (SymbolEntry.decode f).Steady := by
  refine (full_steady _).bind fun name => ?_
  cases f.wordSize with
  | bits32 =>
    exact f.word_steady.bind fun _ => f.word_steady.bind fun _ => byte_steady.bind fun _ =>
      byte_steady.bind fun _ => (half_steady _).bind fun _ => steady_pure _
  | bits64 =>
    exact byte_steady.bind fun _ => byte_steady.bind fun _ => (half_steady _).bind fun _ =>
      f.word_steady.bind fun _ => f.word_steady.bind fun _ => steady_pure _

namespace Header

theorem fields_steady (f : Format) (identVersion : UInt8) : (fields f identVersion).Steady :=
  (half_steady _).bind fun _ => (half_steady _).bind fun _ => (full_steady _).bind fun _ =>
    f.word_steady.bind fun _ => f.word_steady.bind fun _ => f.word_steady.bind fun _ =>
    (full_steady _).bind fun _ => (half_steady _).bind fun _ => (half_steady _).bind fun _ =>
    (half_steady _).bind fun _ => (half_steady _).bind fun _ => (half_steady _).bind fun _ =>
    (half_steady _).bind fun _ => steady_pure _

theorem length_of_ident? {bs : Bytes} {f : Format} {v : UInt8} (h : ident? bs = some (f, v)) :
    16 ≤ bs.length := by
  unfold ident? at h
  split at h
  · cases h
  · next hlong => omega

theorem ident?_append {bs : Bytes} (h : 16 ≤ bs.length) (more : Bytes) :
    ident? (bs ++ more) = ident? bs := by
  have hshort : ¬ (bs ++ more).length < 16 := by
    rw [List.length_append]
    omega
  have htake : (bs ++ more).take 4 = bs.take 4 := List.take_append_of_le_length (by omega)
  have hget : ∀ i, i < 16 → (bs ++ more).getD i 0 = bs.getD i 0 := by
    intro i hi
    rw [List.getD_eq_getElem?_getD, List.getD_eq_getElem?_getD,
      List.getElem?_append_left (by omega)]
  unfold ident?
  rw [htake, hget 4 (by omega), hget 5 (by omega), hget 6 (by omega)]
  simp only [hshort, Nat.not_lt.mpr h, false_or]

theorem decode?_append {bs : Bytes} {h : Header} (hd : decode? bs = some h) (more : Bytes) :
    decode? (bs ++ more) = some h := by
  unfold decode? at hd ⊢
  obtain ⟨⟨f, v⟩, hident, hrest⟩ := Option.bind_eq_some_iff.mp hd
  obtain ⟨⟨header, rest⟩, hfields, hreturn⟩ := Option.bind_eq_some_iff.mp hrest
  have hlong := length_of_ident? hident
  rw [ident?_append hlong, hident, List.drop_append_of_le_length hlong, Option.bind_eq_bind,
    Option.bind_some]
  dsimp only
  rw [fields_steady f v _ _ _ hfields more]
  exact hreturn

end Header

namespace Object

theorem readSections_append {bs : Bytes} {h : Header} {sections : List SectionHeader}
    (hr : readSections bs h = .ok sections) (more : Bytes) :
    readSections (bs ++ more) h = .ok sections := by
  unfold readSections at hr ⊢
  dsimp only at hr ⊢
  split
  · next hnone =>
    rw [if_pos hnone] at hr
    exact hr
  next hsome =>
  rw [if_neg hsome] at hr
  split
  · next hsize =>
    rw [if_pos hsize] at hr
    cases hr
  next hsize =>
  rw [if_neg hsize] at hr
  split at hr
  · cases hr
  next hholds =>
  have hholds := Decidable.not_not.mp hholds
  rw [if_neg (not_not_intro (hholds.append more))]
  have hstart : h.sectionOffset.toNat ≤ bs.length := by
    unfold Bytes.Holds at hholds
    omega
  rw [List.drop_append_of_le_length hstart]
  split at hr
  · next table rest htable =>
    rw [times_steady (SectionHeader.decode_steady _) _ _ _ _ htable more]
    exact hr
  · cases hr

/-- `o'` is read from the bytes of `o` and more bytes after them. The two may differ in whether the
section names can be read. -/
structure Extends (o o' : Object) : Prop where
  header : o'.header = o.header
  sections : o'.sections = o.sections
  bytes : ∃ more, o'.bytes = o.bytes ++ more

/-- What a successful reading of an image has gone through. -/
theorem parse_ok_iff {bs : Bytes} {o : Object} :
    parse bs = .ok o ↔ ∃ h sections, Header.decode? bs = some h ∧ h.version.toNat = currentVersion ∧
      h.identVersion.toNat = currentVersion ∧ readSections bs h = .ok sections ∧
      o = ⟨bs, h, sections, sections[h.nameSection.toNat]?.bind (readNames? bs)⟩ := by
  unfold parse
  constructor
  · intro hp
    split at hp
    · cases hp
    next h hdecode =>
    split at hp
    · cases hp
    next hversion =>
    split at hp
    · cases hp
    next hident =>
    split at hp
    · cases hp
    next sections hsections =>
    cases hp
    exact ⟨h, sections, hdecode, Decidable.not_not.mp hversion, Decidable.not_not.mp hident,
      hsections, rfl⟩
  · rintro ⟨h, sections, hdecode, hversion, hident, hsections, rfl⟩
    simp only [hdecode, hversion, hident, hsections, ne_eq, not_true_eq_false, if_false]

theorem parse_append {bs : Bytes} {o : Object} (h : parse bs = .ok o) (more : Bytes) :
    ∃ o', parse (bs ++ more) = .ok o' ∧ o.Extends o' := by
  obtain ⟨header, sections, hdecode, hversion, hident, hsections, rfl⟩ := parse_ok_iff.mp h
  refine ⟨_, parse_ok_iff.mpr ⟨header, sections, Header.decode?_append hdecode more, hversion,
    hident, readSections_append hsections more, rfl⟩, ?_⟩
  exact ⟨rfl, rfl, more, rfl⟩

/-- An image that can be read when it is cut short says the same in full. -/
theorem extends_of_take {bs : Bytes} {n : Nat} {o o' : Object} (h : parse (bs.take n) = .ok o)
    (h' : parse bs = .ok o') : o.Extends o' := by
  obtain ⟨o'', hparse, hextends⟩ := parse_append h (bs.drop n)
  rw [List.take_append_drop, h'] at hparse
  cases hparse
  exact hextends

namespace Extends

variable {o o' : Object} (h : o.Extends o')
include h

theorem holds {offset size : Nat} (hb : Bytes.Holds o.bytes offset size) :
    Bytes.Holds o'.bytes offset size := by
  obtain ⟨more, hbytes⟩ := h.bytes
  rw [hbytes]
  exact hb.append more

theorem slice {offset size : Nat} (hb : Bytes.Holds o.bytes offset size) :
    Bytes.slice o'.bytes offset size = Bytes.slice o.bytes offset size := by
  obtain ⟨more, hbytes⟩ := h.bytes
  rw [hbytes, Bytes.slice_append hb]

theorem extent : o'.extent = o.extent := by
  unfold Object.extent
  rw [h.header, h.sections]

theorem readEntries? {s : SectionHeader} {entries : List SymbolEntry}
    (hr : o.readEntries? s = some entries) : o'.readEntries? s = some entries := by
  obtain ⟨more, hbytes⟩ := h.bytes
  unfold Object.readEntries? at hr ⊢
  rw [hbytes, h.header]
  dsimp only at hr ⊢
  split at hr
  · next hstart =>
    obtain ⟨⟨found, rest⟩, hrun, hfound⟩ := Option.map_eq_some_iff.mp hr
    have hlonger : s.offset.toNat < (o.bytes ++ more).length := by
      rw [List.length_append]
      omega
    rw [if_pos hlonger, List.drop_append_of_le_length (Nat.le_of_lt hstart),
      times_steady (SymbolEntry.decode_steady _) _ _ _ _ hrun more]
    exact congrArg some hfound
  · cases hr

theorem readSymbols {index : Nat} {s : SectionHeader} {table : SymbolTable}
    (hr : o.readSymbols index s = .ok table) : o'.readSymbols index s = .ok table := by
  unfold Object.readSymbols at hr ⊢
  rw [h.header, h.sections]
  dsimp only at hr ⊢
  split at hr
  · cases hr
  next hsize =>
  rw [if_neg hsize]
  split at hr
  · cases hr
  next hholds =>
  rw [if_neg (not_not_intro (h.holds (Decidable.not_not.mp hholds)))]
  split at hr
  · cases hr
  next linked _ =>
  split at hr
  · cases hr
  next hnames =>
  have hnames := Decidable.not_not.mp hnames
  rw [if_neg (not_not_intro (h.holds hnames)), h.slice hnames]
  split at hr
  · next entries names hentries hnames =>
    rw [h.readEntries? hentries, hnames]
    exact hr
  · cases hr

theorem symbolTableAt {index : Nat} {table : SymbolTable}
    (hr : o.symbolTableAt index = some (.ok table)) :
    o'.symbolTableAt index = some (.ok table) := by
  unfold Object.symbolTableAt at hr ⊢
  obtain ⟨s, hs, hread⟩ := Option.map_eq_some_iff.mp hr
  rw [h.sections, hs, Option.map_some, h.readSymbols hread]

theorem symbolTableAt_none {index : Nat} (hr : o.symbolTableAt index = none) :
    o'.symbolTableAt index = none := by
  unfold Object.symbolTableAt at hr ⊢
  rw [h.sections, Option.map_eq_none_iff.mp hr, Option.map_none]

theorem firstTable {kind : UInt32} {table : Option SymbolTable}
    (hr : o.firstTable kind = .ok table) : o'.firstTable kind = .ok table := by
  have hfind : o'.findKind? kind = o.findKind? kind := by
    unfold findKind?
    rw [h.sections]
  unfold Object.firstTable at hr ⊢
  rw [hfind]
  cases hindex : o.findKind? kind with
  | none =>
    rw [hindex] at hr
    exact hr
  | some index =>
    rw [hindex, Option.bind_some] at hr
    rw [Option.bind_some]
    cases hat : o.symbolTableAt index with
    | none =>
      rw [hat] at hr
      rw [h.symbolTableAt_none hat]
      exact hr
    | some read =>
      rw [hat] at hr
      cases read with
      | error e => cases hr
      | ok found =>
        rw [h.symbolTableAt hat]
        exact hr

theorem undefinedGlobals {names : List String} (hr : o.undefinedGlobals = .ok names) :
    o'.undefinedGlobals = .ok names := by
  unfold Object.undefinedGlobals Object.dynamicSymbolTable at hr ⊢
  cases htable : o.firstTable SectionHeader.dynsym with
  | error e =>
    rw [htable] at hr
    cases hr
  | ok table =>
    rw [htable] at hr
    rw [h.firstTable htable]
    exact hr

theorem sizeIn {name : String} {size : Nat} (tables : List (SectionHeader × Nat))
    (hr : o.sizeIn name tables = .ok size) : o'.sizeIn name tables = .ok size := by
  induction tables with
  | nil => exact hr
  | cons entry rest ih =>
    obtain ⟨s, index⟩ := entry
    unfold Object.sizeIn at hr ⊢
    split at hr
    · cases hr
    next table hread =>
    rw [h.readSymbols hread]
    dsimp only
    cases hfind : table.find? name with
    | some symbol =>
      rw [hfind] at hr
      exact hr
    | none =>
      rw [hfind] at hr
      exact ih hr

theorem symbolSize {name : String} {size : Nat} (hr : o.symbolSize name = .ok size) :
    o'.symbolSize name = .ok size := by
  unfold Object.symbolSize at hr ⊢
  rw [h.sections]
  exact h.sizeIn _ hr

end Extends

end Object

end Elf

end DeviceCode
