import Mathlib
import DeviceCode.Proofs.Elf.Extension
import DeviceCode.Proofs.Elf.Records

/-!
# Symbol tables stay inside the image

Offsets, sizes, links and entry sizes come out of the image unchecked. What is decoded from them all
lies in a range whose bounds were checked first: the entries in that of the symbol section, the
names in that of the section it links to. The decoder of an entry takes a fixed number of bytes
whatever they are (`Reader.Spans`), so once the range of the section is known to be inside the image
no entry of it can fail to be decoded (`Object.readEntries?_of_holds`).

Both word sizes and both byte orders are covered. The sections may overlap, and a section may link
to itself.
-/

namespace DeviceCode

variable {α β : Type}

namespace Text

theorem utf8_of_ofUtf8? {bs : Bytes} {s : String} (h : ofUtf8? bs = some s) : utf8 s = bs := by
  unfold ofUtf8? String.fromUTF8? at h
  split at h
  · cases h
    simp [utf8, String.fromUTF8]
  · cases h

end Text

namespace Bytes

/-- A slice of a slice. -/
theorem slice_slice {bs : Bytes} {start size offset width : Nat} (h : offset + width ≤ size) :
    slice (slice bs start size) offset width = slice bs (start + offset) width := by
  simp only [slice, List.drop_take, List.take_take, List.drop_drop]
  rw [Nat.min_eq_left (by omega)]

/-- The check of a range adds its two ends as 64-bit numbers and refuses what wraps around. -/
theorem holds_iff_unwrapped {bs : Bytes} (hlength : bs.length < 2 ^ 64) {offset size : UInt64} :
    Holds bs offset.toNat size.toNat ↔
      (offset + size).toNat = offset.toNat + size.toNat ∧ (offset + size).toNat ≤ bs.length := by
  have hoffset := offset.toNat_lt
  have hsize := size.toNat_lt
  rw [Holds, UInt64.toNat_add]
  omega

end Bytes

namespace Reader

/-- `r` takes a value off any `n` bytes. -/
def Spans (r : Reader α) (n : Nat) : Prop := ∀ bs : Bytes, bs.length = n → ∃ a, r.Takes bs a

theorem spans_pure (a : α) : (pure a : Reader α).Spans 0 := by
  intro bs h
  rw [List.length_eq_zero_iff.mp h]
  exact ⟨a, takes_pure a⟩

theorem Spans.bind {r : Reader α} {k : α → Reader β} {m n : Nat} (h : r.Spans m)
    (hk : ∀ a, (k a).Spans n) : (r >>= k).Spans (m + n) := by
  intro bs hlength
  obtain ⟨a, ha⟩ := h (bs.take m) (by rw [List.length_take]; omega)
  obtain ⟨b, hb⟩ := hk a (bs.drop m) (by rw [List.length_drop]; omega)
  have := ha.bind hb
  rw [List.take_append_drop] at this
  exact ⟨b, this⟩

theorem Spans.map {r : Reader α} {n : Nat} (h : r.Spans n) (f : α → β) : (f <$> r).Spans n := by
  intro bs hlength
  obtain ⟨a, ha⟩ := h bs hlength
  exact ⟨f a, ha.map f⟩

theorem number_spans (order : ByteOrder) (w : Nat) : (number order w).Spans w := by
  intro bs hlength
  refine ⟨Bytes.toNat order bs, fun rest => ?_⟩
  have hw : w ≤ (bs ++ rest).length := by
    rw [List.length_append]
    omega
  show number order w (bs ++ rest) = _
  rw [number, if_pos hw, List.take_left' hlength, List.drop_left' hlength]

theorem byte_spans : byte.Spans 1 := (number_spans _ _).map _

theorem half_spans (order : ByteOrder) : (half order).Spans 2 := (number_spans _ _).map _

theorem full_spans (order : ByteOrder) : (full order).Spans 4 := (number_spans _ _).map _

/-- What a reader takes off some bytes is all that it can find there. -/
theorem Takes.unique {r : Reader α} {bs more rest : Bytes} {a b : α} (h : r.Takes bs a)
    (hrun : r.run (bs ++ more) = some (b, rest)) : b = a := by
  rw [h more] at hrun
  cases hrun
  rfl

theorem Takes.run {r : Reader α} {bs : Bytes} {a : α} (h : r.Takes bs a) :
    r.run bs = some (a, []) := by
  have := h []
  rwa [List.append_nil] at this

/-- Values of one width, read one after the other: the `i`-th comes from the `i`-th piece. -/
theorem Spans.times {r : Reader α} {n : Nat} (h : r.Spans n) (count : Nat) {bs : Bytes}
    (hlength : bs.length = count * n) :
    ∃ as, (times count r).Takes bs as ∧ as.length = count ∧
      ∀ i < count, ∃ a, as[i]? = some a ∧ r.Takes (Bytes.slice bs (i * n) n) a := by
  induction count generalizing bs with
  | zero =>
    rw [Nat.zero_mul] at hlength
    rw [List.length_eq_zero_iff.mp hlength]
    exact ⟨[], takes_pure [], rfl, fun i hi => absurd hi (Nat.not_lt_zero i)⟩
  | succ count ih =>
    rw [Nat.succ_mul] at hlength
    obtain ⟨a, ha⟩ := h (bs.take n) (by rw [List.length_take]; omega)
    have hrest : (bs.drop n).length = count * n := by rw [List.length_drop]; omega
    obtain ⟨as, has, hcount, hpieces⟩ := ih hrest
    have htakes : (Reader.times (count + 1) r).Takes (bs.take n ++ bs.drop n) (a :: as) :=
      ha.bind (has.last (a :: ·))
    rw [List.take_append_drop] at htakes
    refine ⟨a :: as, htakes, by rw [List.length_cons, hcount], fun i hi => ?_⟩
    cases i with
    | zero =>
      refine ⟨a, rfl, ?_⟩
      rw [Nat.zero_mul, Bytes.slice, List.drop_zero]
      exact ha
    | succ i =>
      obtain ⟨b, hb, hpiece⟩ := hpieces i (by omega)
      refine ⟨b, hb, ?_⟩
      rw [Bytes.slice, List.drop_drop] at hpiece
      rwa [Nat.succ_mul, Bytes.slice, Nat.add_comm]

end Reader

namespace Elf

open Reader

theorem Format.word_spans (f : Format) : f.word.Spans f.wordBytes := (number_spans _ _).map _

/-- A symbol takes up as many bytes as its class says, whatever they are. -/
theorem SymbolEntry.decode_spans (f : Format) : (SymbolEntry.decode f).Spans f.symbolEntrySize := by
  have hword := f.word_spans
  obtain ⟨wordSize, order⟩ := f
  cases wordSize with
  | bits32 =>
    exact (full_spans order).bind (n := 12) fun _ => hword.bind (n := 8) fun _ =>
      hword.bind (n := 4) fun _ => byte_spans.bind (n := 3) fun _ => byte_spans.bind (n := 2)
        fun _ => (half_spans order).bind fun _ => spans_pure _
  | bits64 =>
    exact (full_spans order).bind (n := 20) fun _ => byte_spans.bind (n := 19) fun _ =>
      byte_spans.bind (n := 18) fun _ => (half_spans order).bind (n := 16) fun _ =>
        hword.bind (n := 8) fun _ => hword.bind fun _ => spans_pure _

/-- The range of the section lies inside the image, and its end is computed without wrapping. -/
structure SectionHeader.Inside (s : SectionHeader) (bs : Bytes) : Prop where
  holds : s.offset.toNat + s.size.toNat ≤ bs.length
  unwrapped : bs.length < 2 ^ 64 → (s.offset + s.size).toNat = s.offset.toNat + s.size.toNat

theorem SectionHeader.inside_of_holds {s : SectionHeader} {bs : Bytes}
    (h : Bytes.Holds bs s.offset.toNat s.size.toNat) : s.Inside bs where
  holds := h
  unwrapped := fun hlength => ((Bytes.holds_iff_unwrapped hlength).mp h).1

/-- The text is a run of bytes of the section without a zero byte. It starts at `start` and ends at
a zero byte or where the section ends. -/
def SectionHeader.Spells (s : SectionHeader) (bs : Bytes) (start : Nat) (name : String) : Prop :=
  ∃ length, start + length ≤ s.size.toNat ∧
    Text.utf8 name = Bytes.slice bs (s.offset.toNat + start) length ∧ 0 ∉ Text.utf8 name ∧
    (start + length = s.size.toNat ∨ bs[s.offset.toNat + start + length]? = some 0)

namespace StringTable

theorem ofBytes?_eq_some {bs : Bytes} {t : StringTable} (h : ofBytes? bs = some t) : t = ⟨bs⟩ := by
  obtain ⟨_, -, ht⟩ := Option.map_eq_some_iff.mp h
  exact ht.symm

/-- A name of a table runs up to the first zero byte, or to the end of the table if there is
none. -/
theorem nameAt?_run {t : StringTable} {start : Nat} {name : String}
    (h : t.nameAt? start = some name) :
    ∃ length, start + length ≤ t.bytes.length ∧
      Text.utf8 name = Bytes.slice t.bytes start length ∧ 0 ∉ Text.utf8 name ∧
      (start + length = t.bytes.length ∨ t.bytes[start + length]? = some 0) := by
  unfold nameAt? at h
  split at h
  · next hlt =>
    let run := (t.bytes.drop start).takeWhile (· ≠ 0)
    have hrun : Text.utf8 name = run := Text.utf8_of_ofUtf8? h
    have hsplit : t.bytes.drop start = run ++ (t.bytes.drop start).dropWhile (· ≠ 0) :=
      List.takeWhile_append_dropWhile.symm
    have hlength : (t.bytes.drop start).length = t.bytes.length - start := List.length_drop
    refine ⟨run.length, ?_, ?_, ?_, ?_⟩
    · rw [hsplit, List.length_append] at hlength
      omega
    · rw [hrun, Bytes.slice, hsplit, List.take_left]
    · rw [hrun]
      intro hzero
      simpa using List.mem_takeWhile_imp hzero
    · cases hrest : (t.bytes.drop start).dropWhile (· ≠ 0) with
      | nil =>
        left
        rw [hsplit, hrest, List.append_nil] at hlength
        omega
      | cons b rest =>
        right
        have hb : b = 0 := by
          have hhead := List.head?_dropWhile_not (· ≠ 0) (t.bytes.drop start)
          rw [hrest] at hhead
          simpa using hhead
        rw [← List.getElem?_drop, hsplit, List.getElem?_append_right (Nat.le_refl _), Nat.sub_self,
          hrest, List.getElem?_cons_zero, hb]
  · split at h
    · next hend =>
      cases h
      exact ⟨0, by omega, rfl, by decide, .inl hend.1⟩
    · cases h

end StringTable

namespace Object

variable {o : Object} {index : Nat} {s : SectionHeader} {table : SymbolTable}

/-- What the decoding of a symbol table has gone through. -/
theorem readSymbols_ok_iff : o.readSymbols index s = .ok table ↔
    (s.entrySize = 0 ∨ s.entrySize.toNat = o.header.format.symbolEntrySize) ∧
      Bytes.Holds o.bytes s.offset.toNat s.size.toNat ∧
      ∃ linked, o.sections[s.link.toNat]? = some linked ∧ linked.hasFileData = true ∧
        Bytes.Holds o.bytes linked.offset.toNat linked.size.toNat ∧
        ∃ entries names, o.readEntries? s = some entries ∧
          StringTable.ofBytes? (Bytes.slice o.bytes linked.offset.toNat linked.size.toNat) =
            some names ∧ table = ⟨index, entries.map (Symbol.ofEntry names)⟩ := by
  unfold readSymbols
  dsimp only
  constructor
  · intro h
    split at h
    · cases h
    next hsize =>
    split at h
    · cases h
    next hholds =>
    split at h
    · cases h
    next linked hlinked =>
    split at h
    · cases h
    next hnames =>
    split at h
    · next entries names hentries htable =>
      cases h
      obtain ⟨hat, hfile⟩ := Option.filter_eq_some_iff.mp hlinked
      refine ⟨?_, Decidable.not_not.mp hholds, linked, hat, hfile, Decidable.not_not.mp hnames,
        entries, names, hentries, htable, rfl⟩
      by_cases hzero : s.entrySize = 0
      · exact .inl hzero
      · exact .inr (Decidable.not_not.mp fun h => hsize ⟨hzero, h⟩)
    · cases h
  · intro h
    obtain ⟨hsize, hholds, linked, hat, hfile, hnames, entries, names, hentries, htable, rfl⟩ := h
    have hfilter : o.sections[s.link.toNat]?.filter SectionHeader.hasFileData = some linked :=
      Option.filter_eq_some_iff.mpr ⟨hat, hfile⟩
    have hsize' : ¬ (s.entrySize ≠ 0 ∧ s.entrySize.toNat ≠ o.header.format.symbolEntrySize) := by
      intro h
      exact hsize.elim h.1 h.2
    rw [if_neg hsize', if_neg (not_not_intro hholds), hfilter]
    dsimp only
    rw [if_neg (not_not_intro hnames), hentries, htable]

/-- **No entry of a section inside the image fails to be decoded**: there is one for every whole
piece of the section, and it is what that piece spells. -/
theorem readEntries?_of_holds (hholds : Bytes.Holds o.bytes s.offset.toNat s.size.toNat)
    (hstart : s.offset.toNat < o.bytes.length) :
    let width := o.header.format.symbolEntrySize
    ∃ entries, o.readEntries? s = some entries ∧ entries.length = s.size.toNat / width ∧
      ∀ i < s.size.toNat / width, (i + 1) * width ≤ s.size.toNat ∧
        ∃ entry, entries[i]? = some entry ∧ (SymbolEntry.decode o.header.format).run
          (Bytes.slice o.bytes (s.offset.toNat + i * width) width) = some (entry, []) := by
  intro width
  let count := s.size.toNat / width
  have hroom : count * width ≤ s.size.toNat := Nat.div_mul_le_self _ _
  unfold Bytes.Holds at hholds
  have hfront : Bytes.Holds o.bytes s.offset.toNat (count * width) := by
    unfold Bytes.Holds
    omega
  obtain ⟨entries, htakes, hcount, hpieces⟩ :=
    (SymbolEntry.decode_spans o.header.format).times count (Bytes.length_slice hfront)
  refine ⟨entries, ?_, hcount, fun i hi => ?_⟩
  · have hrun := htakes (o.bytes.drop (s.offset.toNat + count * width))
    rw [Bytes.slice, ← List.drop_drop, List.take_append_drop] at hrun
    unfold readEntries?
    rw [if_pos hstart, hrun]
    rfl
  · have hpiece : (i + 1) * width ≤ count * width := Nat.mul_le_mul_right width hi
    obtain ⟨entry, hat, hentry⟩ := hpieces i hi
    rw [Bytes.slice_slice (by rw [Nat.succ_mul] at hpiece; exact hpiece)] at hentry
    exact ⟨hpiece.trans hroom, entry, hat, hentry.run⟩

/-- The section headers themselves are read from inside the image, as many as there should be. -/
theorem readSections_bounded {bs : Bytes} {h : Header} {sections : List SectionHeader}
    (hr : readSections bs h = .ok sections) : sections = [] ∨
      h.sectionOffset.toNat + h.sectionEntrySize.toNat * h.sectionCount.toNat ≤ bs.length := by
  unfold readSections at hr
  dsimp only at hr
  split at hr
  · cases hr
    exact .inl rfl
  split at hr
  · cases hr
  split at hr
  · cases hr
  next hholds => exact .inr (Decidable.not_not.mp hholds)

/-- The symbols of a section, and the bytes of the image that they were decoded from. -/
structure Bounded (o : Object) (bs : Bytes) (s : SectionHeader) (table : SymbolTable) : Prop where
  entrySize : s.entrySize = 0 ∨ s.entrySize.toNat = o.header.format.symbolEntrySize
  inside : s.Inside bs
  length : table.symbols.length = s.size.toNat / o.header.format.symbolEntrySize
  /-- Each symbol comes from its own piece of the section, and its name from the linked section. -/
  symbols : ∃ linked, o.sections[s.link.toNat]? = some linked ∧ linked.kind ≠ SectionHeader.nobits ∧
    linked.Inside bs ∧ ∀ i < table.symbols.length,
      let width := o.header.format.symbolEntrySize
      (i + 1) * width ≤ s.size.toNat ∧ ∃ entry symbol, table.symbols[i]? = some symbol ∧
        (SymbolEntry.decode o.header.format).run
          (Bytes.slice bs (s.offset.toNat + i * width) width) = some (entry, []) ∧
        symbol = Symbol.ofEntry ⟨Bytes.slice bs linked.offset.toNat linked.size.toNat⟩ entry ∧
        (symbol.name = "" ∨ linked.Spells bs entry.name.toNat symbol.name)

/-- The name of a symbol is empty or stands in the section of the names. -/
theorem ofEntry_name {bs : Bytes} {linked : SectionHeader} {names : StringTable}
    (hholds : Bytes.Holds bs linked.offset.toNat linked.size.toNat)
    (hnames : names.bytes = Bytes.slice bs linked.offset.toNat linked.size.toNat)
    (entry : SymbolEntry) : (Symbol.ofEntry names entry).name = "" ∨
      linked.Spells bs entry.name.toNat (Symbol.ofEntry names entry).name := by
  unfold Symbol.ofEntry
  dsimp only
  cases hname : names.nameAt? entry.name.toNat with
  | none => exact .inl rfl
  | some name =>
    right
    obtain ⟨length, hin, hspell, hzero, hend⟩ := StringTable.nameAt?_run hname
    have hsize : names.bytes.length = linked.size.toNat := by
      rw [hnames, Bytes.length_slice hholds]
    rw [hsize] at hin hend
    refine ⟨length, hin, ?_, hzero, hend.imp_right fun hbyte => ?_⟩
    · rw [Option.getD_some, hspell, hnames, Bytes.slice_slice hin]
    · rw [hnames, Bytes.slice, List.getElem?_take, List.getElem?_drop, ← Nat.add_assoc] at hbyte
      split at hbyte
      · exact hbyte
      · cases hbyte

theorem readEntries?_start {entries : List SymbolEntry} (h : o.readEntries? s = some entries) :
    s.offset.toNat < o.bytes.length := by
  unfold readEntries? at h
  dsimp only at h
  split at h
  · assumption
  · cases h

/-- What is decoded from a section was checked to lie in it. -/
theorem readSymbols_bounded (h : o.readSymbols index s = .ok table) :
    o.Bounded o.bytes s table := by
  obtain ⟨hentry, hholds, linked, hlinked, hfile, hnames, entries, names, hentries, htable, rfl⟩ :=
    readSymbols_ok_iff.mp h
  obtain ⟨found, hfound, hlength, hpieces⟩ :=
    readEntries?_of_holds hholds (readEntries?_start hentries)
  cases hentries.symm.trans hfound
  cases StringTable.ofBytes?_eq_some htable
  refine ⟨hentry, SectionHeader.inside_of_holds hholds, by rw [List.length_map, hlength], linked,
    hlinked, ?_, SectionHeader.inside_of_holds hnames, fun i hi => ?_⟩
  · intro hkind
    simp [SectionHeader.hasFileData, hkind] at hfile
  · rw [List.length_map, hlength] at hi
    obtain ⟨hroom, entry, hat, hdecode⟩ := hpieces i hi
    exact ⟨hroom, entry, _, by rw [List.getElem?_map, hat, Option.map_some], hdecode, rfl,
      ofEntry_name hnames rfl entry⟩

/-- **Symbol tables are decoded within bounds.** A table that is returned comes from a section whose
range lies inside the image and whose entry size is the one of its class or left out. It has one
symbol for every whole piece of the section, each decoded from that piece, and the name of each is
empty or a run of bytes of the linked section, which lies inside the image as well. The check that
all of this rests on lets no range pass whose end wraps around. -/
theorem symbolTableAt_bounded {bs : Bytes} (hparse : parse bs = .ok o)
    (h : o.symbolTableAt index = some (.ok table)) :
    (∃ s, o.sections[index]? = some s ∧ o.Bounded bs s table) ∧
      o.header.sectionOffset.toNat + o.header.sectionEntrySize.toNat * o.header.sectionCount.toNat ≤
        bs.length ∧
      (bs.length < 2 ^ 64 → ∀ offset size : UInt64, Bytes.Holds bs offset.toNat size.toNat ↔
        (offset + size).toNat = offset.toNat + size.toNat ∧ (offset + size).toNat ≤ bs.length) := by
  obtain ⟨header, sections, -, -, -, hsections, rfl⟩ := parse_ok_iff.mp hparse
  obtain ⟨s, hs, hread⟩ := Option.map_eq_some_iff.mp h
  refine ⟨⟨s, hs, readSymbols_bounded hread⟩, ?_,
    fun hlength offset size => Bytes.holds_iff_unwrapped hlength⟩
  rcases readSections_bounded hsections with hnone | hplace
  · subst hnone
    cases hs
  · exact hplace

/-- A 32-bit image with its high bytes first. Its one section links to itself and starts at its own
header, so that the symbol and its name are both read from that header. -/
def selfLinked : Bytes :=
  [0x7f, 0x45, 0x4c, 0x46, 1, 2, 1, 0, 0, 0, 0, 0, 0, 0, 0, 0, 0, 3, 0, 0, 0, 0, 0, 1, 0, 0, 0, 0,
    0, 0, 0, 0, 0, 0, 0, 52, 0, 0, 0, 0, 0, 52, 0, 0, 0, 0, 0, 40, 0, 1, 0, 0,
    0, 0, 0, 7, 0, 0, 0, 2, 0, 0, 0, 0, 0, 0, 0, 0, 0, 0, 0, 52, 0, 0, 0, 40, 0, 0, 0, 0,
    0, 0, 0, 0, 0, 0, 0, 0, 0, 0, 0, 16]

theorem symbolTableAt_bounded_selfLinked : ∃ o table s, parse selfLinked = .ok o ∧
    o.symbolTableAt 0 = some (.ok table) ∧ table.symbols.map (·.name) = ["\x02", ""] ∧
    o.sections[0]? = some s ∧ o.Bounded selfLinked s table := by
  have hread : ((parse selfLinked).toOption.bind fun o => (o.symbolTableAt 0).bind fun table =>
      table.toOption.map fun table => table.symbols.map (·.name)) = some ["\x02", ""] := by
    decide +kernel
  obtain ⟨o, hparse, hread⟩ := Option.bind_eq_some_iff.mp hread
  obtain ⟨answer, hat, hread⟩ := Option.bind_eq_some_iff.mp hread
  obtain ⟨table, htable, hnames⟩ := Option.map_eq_some_iff.mp hread
  cases hresult : parse selfLinked with
  | error e =>
    rw [hresult] at hparse
    cases hparse
  | ok o' =>
    rw [hresult] at hparse
    cases hparse
    cases answer with
    | error e => cases htable
    | ok found =>
      cases htable
      obtain ⟨⟨s, hs, hbounded⟩, -⟩ := symbolTableAt_bounded hresult hat
      exact ⟨o, table, s, rfl, hat, hnames, hs, hbounded⟩

end Object

end Elf

end DeviceCode
