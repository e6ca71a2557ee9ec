import DeviceCode.Elf.Format
import DeviceCode.Proofs.FieldRoundTrip

/-!
# Records that are written and read back

A reader `Takes` a value off some bytes when it reads the value whatever follows them and leaves
just what follows. Readers that take their values one after the other take them off the bytes in a
row, so a record whose fields are written in the order they are read is read back as it was.

Only the 64-bit form is covered: a 32-bit one keeps the low half of a word.
-/

namespace DeviceCode

variable {α β : Type}

namespace Reader

/-- `r` reads `a` off exactly these bytes. -/
def Takes (r : Reader α) (bs : Bytes) (a : α) : Prop :=
  ∀ rest, r.run (bs ++ rest) = some (a, rest)

theorem takes_pure (a : α) : (pure a : Reader α).Takes [] a := fun _ => rfl

theorem Takes.bind {r : Reader α} {k : α → Reader β} {bs bs' : Bytes} {a : α} {b : β}
    (h : r.Takes bs a) (hk : (k a).Takes bs' b) : (r >>= k).Takes (bs ++ bs') b := by
  intro rest
  have hr : r.run (bs ++ (bs' ++ rest)) = some (a, bs' ++ rest) := h _
  rw [List.append_assoc, StateT.run_bind, hr]
  exact hk rest

/-- The last field of a record. -/
theorem Takes.last {r : Reader α} {bs : Bytes} {a : α} (h : r.Takes bs a) (f : α → β) :
    (do let a ← r; return f a).Takes bs (f a) := by
  have := h.bind (k := fun a => pure (f a)) (takes_pure (f a))
  rwa [List.append_nil] at this

theorem Takes.map {r : Reader α} {bs : Bytes} {a : α} (h : r.Takes bs a) (f : α → β) :
    (f <$> r).Takes bs (f a) := by
  intro rest
  rw [StateT.run_map, h rest]
  rfl

theorem number_takes (order : ByteOrder) {w n : Nat} (h : n < 256 ^ w) :
    (number order w).Takes (Bytes.ofNat order w n) n := by
  intro rest
  have := number_append order w n rest
  rwa [Nat.mod_eq_of_lt h] at this

theorem byte_takes (n : UInt8) : byte.Takes [n] n := by
  have h : [n] = Bytes.ofNat .little 1 n.toNat := by simp [Bytes.ofNat, Bytes.ofNatLE]
  have := (number_takes .little (w := 1) n.toNat_lt).map UInt8.ofNat
  rwa [← h, UInt8.ofNat_toNat] at this

theorem half_takes (order : ByteOrder) (n : UInt16) :
    (half order).Takes (Bytes.ofHalf order n) n := by
  have := (number_takes order (w := 2) n.toNat_lt).map UInt16.ofNat
  rwa [UInt16.ofNat_toNat] at this

theorem full_takes (order : ByteOrder) (n : UInt32) :
    (full order).Takes (Bytes.ofFull order n) n := by
  have := (number_takes order (w := 4) n.toNat_lt).map UInt32.ofNat
  rwa [UInt32.ofNat_toNat] at this

theorem long_takes (order : ByteOrder) (n : UInt64) :
    (long order).Takes (Bytes.ofLong order n) n := by
  have := (number_takes order (w := 8) n.toNat_lt).map UInt64.ofNat
  rwa [UInt64.ofNat_toNat] at this

/-- Entries that are each read back are read back from a table of them. -/
theorem times_takes {r : Reader α} {encode : α → Bytes} (h : ∀ a, r.Takes (encode a) a) :
    ∀ as : List α, (times as.length r).Takes (as.flatMap encode) as
  | [] => takes_pure []
  | a :: as => by
    have hrest := times_takes h as
    rw [List.flatMap_cons]
    exact (h a).bind (hrest.last (a :: ·))

end Reader

/-- A table of entries of one size. -/
theorem Bytes.length_flatMap {encode : α → Bytes} {n : Nat} (h : ∀ a, (encode a).length = n)
    (as : List α) : (as.flatMap encode).length = n * as.length := by
  induction as with
  | nil => rfl
  | cons a as ih =>
    rw [List.flatMap_cons, List.length_append, h, ih, List.length_cons, Nat.mul_succ, Nat.add_comm]

namespace Elf

open Reader

theorem Format.word_takes {f : Format} (hf : f.wordSize = .bits64) (n : UInt64) :
    f.word.Takes (f.putWord n) n := by
  have hw : f.wordBytes = 8 := by rw [Format.wordBytes, hf]
  have := (number_takes f.order (w := 8) n.toNat_lt).map UInt64.ofNat
  rw [UInt64.ofNat_toNat] at this
  simpa only [Format.word, Format.putWord, hw] using this

theorem Format.length_putWord {f : Format} (hf : f.wordSize = .bits64) (n : UInt64) :
    (f.putWord n).length = 8 := by
  simp [Format.putWord, Format.wordBytes, hf]

theorem SectionHeader.decode_takes {f : Format} (hf : f.wordSize = .bits64) (s : SectionHeader) :
    (SectionHeader.decode f).Takes (s.encode f) s := by
  have hword := Format.word_takes hf
  have hfull := full_takes f.order
  simp only [SectionHeader.encode, List.append_assoc]
  exact (hfull s.name).bind <| (hfull s.kind).bind <| (hword s.flags).bind <|
    (hword s.address).bind <| (hword s.offset).bind <| (hword s.size).bind <|
    (hfull s.link).bind <| (hfull s.info).bind <| (hword s.align).bind <|
    (hword s.entrySize).last _

theorem SectionHeader.length_encode {f : Format} (hf : f.wordSize = .bits64) (s : SectionHeader) :
    (s.encode f).length = f.sectionEntrySize := by
  simp [SectionHeader.encode, Bytes.ofFull, Format.length_putWord hf, Format.sectionEntrySize, hf]

theorem SymbolEntry.decode_takes {f : Format} (hf : f.wordSize = .bits64) (s : SymbolEntry) :
    (SymbolEntry.decode f).Takes (s.encode f) s := by
  have hword := Format.word_takes hf
  have hmarks : s.encode f = Bytes.ofFull f.order s.name ++ ([s.info] ++ ([s.other] ++
      (Bytes.ofHalf f.order s.sectionIndex ++ (f.putWord s.value ++ f.putWord s.size)))) := by
    simp [SymbolEntry.encode, hf]
  rw [hmarks, SymbolEntry.decode, hf]
  exact (full_takes f.order s.name).bind <| (byte_takes s.info).bind <| (byte_takes s.other).bind <|
    (half_takes f.order s.sectionIndex).bind <| (hword s.value).bind <| (hword s.size).last _

theorem SymbolEntry.length_encode {f : Format} (hf : f.wordSize = .bits64) (s : SymbolEntry) :
    (s.encode f).length = f.symbolEntrySize := by
  simp [SymbolEntry.encode, Bytes.ofFull, Bytes.ofHalf, Format.length_putWord hf,
    Format.symbolEntrySize, hf]

namespace Header

theorem length_encodeIdent (h : Header) : h.encodeIdent.length = 16 := rfl

theorem length_encode {h : Header} (hf : h.format.wordSize = .bits64) :
    h.encode.length = h.format.headerSize := by
  simp [Header.encode, length_encodeIdent, Bytes.ofFull, Bytes.ofHalf, Format.length_putWord hf,
    Format.headerSize, hf]

theorem ident?_encodeIdent (h : Header) (rest : Bytes) :
    ident? (h.encodeIdent ++ rest) = some (h.format, h.identVersion) := by
  obtain ⟨⟨wordSize, order⟩, _⟩ := h
  cases wordSize <;> cases order <;>
    simp [ident?, encodeIdent, magic, wordSizeOfCode?, orderOfCode?, Bytes.zeros]

/-- The bytes after the identification are those that the fields are read off. -/
theorem exists_fields {h : Header} (hf : h.format.wordSize = .bits64) :
    ∃ bs, h.encode = h.encodeIdent ++ bs ∧ (fields h.format h.identVersion).Takes bs h := by
  have hword := Format.word_takes hf
  have hhalf := half_takes h.format.order
  have hfull := full_takes h.format.order
  simp only [Header.encode, List.append_assoc]
  exact ⟨_, rfl, (hhalf h.kind).bind <| (hhalf h.machine).bind <| (hfull h.version).bind <|
    (hword h.entry).bind <| (hword h.programOffset).bind <| (hword h.sectionOffset).bind <|
    (hfull h.flags).bind <| (hhalf h.headerSize).bind <| (hhalf h.programEntrySize).bind <|
    (hhalf h.programCount).bind <| (hhalf h.sectionEntrySize).bind <|
    (hhalf h.sectionCount).bind <| (hhalf h.nameSection).last _⟩

theorem decode?_encode {h : Header} (hf : h.format.wordSize = .bits64) (rest : Bytes) :
    decode? (h.encode ++ rest) = some h := by
  obtain ⟨bs, hbs, hfields⟩ := exists_fields hf
  have hdrop : (h.encodeIdent ++ (bs ++ rest)).drop 16 = bs ++ rest :=
    List.drop_left' h.length_encodeIdent
  rw [hbs, List.append_assoc, decode?, ident?_encodeIdent, Option.bind_eq_bind, Option.bind_some,
    hdrop]
  dsimp only
  rw [hfields rest]
  rfl

end Header

end Elf

end DeviceCode
