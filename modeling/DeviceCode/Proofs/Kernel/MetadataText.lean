import DeviceCode.Proofs.Kernel.Spelling

/-!
# Kernel metadata survives being written and read again

The compact form of a metadata document spells a JSON value (`metadataValue`), and the reader of
documents gives back the metadata that this value was made of. Both go record by record: a member
that is absent is not written, and one that is not there is read as absent.

The one thing that a document can hold and the compact form not give back is a size of more than 64
bits. No document is read as such metadata, so what was read can always be written and read again.
-/

namespace DeviceCode

open JsonText

/-! ## Decimal numbers -/

namespace Text

theorem digitValue?_ten {c : Char} (h : c.isDigit = true) :
    digitValue? 10 c = some (c.toNat - '0'.toNat) := by
  have hrange : 48 ≤ c.toNat ∧ c.toNat ≤ 57 := Char.isDigit_iff_toNat.mp h
  have hbounds : '0' ≤ c ∧ c ≤ '9' := hrange
  have hlt : c.toNat - '0'.toNat < 10 := by
    change c.toNat - 48 < 10
    omega
  unfold digitValue?
  rw [if_pos hbounds]
  exact Option.filter_some_pos (decide_eq_true hlt)

theorem readDigits?_ten {cs : List Char} (h : ∀ c ∈ cs, c.isDigit = true) (acc : Nat) :
    readDigits? 10 acc cs = some (Nat.ofDigitChars 10 cs acc) := by
  induction cs generalizing acc with
  | nil => rfl
  | cons c cs ih =>
    rw [readDigits?, digitValue?_ten (h c List.mem_cons_self), Nat.ofDigitChars_cons]
    exact ih (fun d hd => h d (List.mem_cons_of_mem c hd)) _

end Text

namespace Metadata

theorem numeral?_printNat {n : Nat} (h : n ≤ maxWord) :
    Text.numeral? 10 (printNat n) = some n := by
  have hvalue : Text.readDigits? 10 0 (printNat n) = some n := by
    rw [Text.readDigits?_ten (fun _ => isDigit_of_mem_printNat), printNat,
      Nat.ofDigitChars_ten_toDigits]
  obtain ⟨d, ds, hcons, -⟩ := toDigits_ten_eq_cons n
  -- a leading sign would be dropped, but what is written starts with a digit
  have hsign : d ≠ '+' := by
    have hdigit : d.isDigit = true := isDigit_of_mem_printNat (hcons ▸ List.mem_cons_self)
    rintro rfl
    exact absurd hdigit (by decide)
  rw [printNat, hcons] at hvalue ⊢
  have hread : Text.digits? 10 (d :: ds) = some n := hvalue
  unfold Text.numeral?
  split
  · next heq => exact absurd (List.cons.inj heq).1 hsign
  · dsimp only
    rw [hread]
    exact Option.filter_some_pos (decide_eq_true h)

theorem size?_printNat {n : Nat} (h : n ≤ maxWord) :
    size? (.number (printNat n)) = some n := by
  have hdigits : (printNat n).all Char.isDigit = true :=
    List.all_eq_true.mpr fun _ => isDigit_of_mem_printNat
  exact (if_pos hdigits).trans (numeral?_printNat h)

/-- A size that was read fits in a word. -/
theorem le_of_size? {v : Value} {n : Nat} (h : size? v = some n) : n ≤ maxWord := by
  unfold size? at h
  split at h
  · split at h
    · exact of_decide_eq_true (Option.filter_eq_some_iff.mp h).2
    · cases h
  · cases h

/-! ## The value that is written -/

/-- A member with a text, if there is a text. -/
def textMember (key : String) (content : Option String) : List (Option String × Value) :=
  (content.map fun s => (some key, Value.string (some s))).toList

def parameterValue (p : Parameter) : Value :=
  .object (textMember "name" p.name ++ textMember "type" p.typeName ++
    [(some "size", .number (printNat p.size)), (some "align", .number (printNat p.align))])

def kernelValue (k : KernelDecl) : Value :=
  .object [(some "name", .string (some k.name)),
    (some "args", .array (k.parameters.map parameterValue))]

def metadataValue (m : Metadata) : Value :=
  .object [(some "kernels", .array (m.kernels.map kernelValue))]

theorem spells_textMember (key : String) (content : Option String) :
    List.Forall₂ SpellsMember (content.map fun s => member key (quoteChars s)).toList
      (textMember key content) := by
  cases content with
  | none => exact .nil
  | some s => exact .cons (spellsMember key (spells_string s)) .nil

/-- Items that are written one by one are spelled one by one. -/
theorem forall₂_map {α : Type} {write : α → List Char} {value : α → Value}
    (h : ∀ x, Spells (write x) (value x)) (xs : List α) :
    List.Forall₂ Spells (xs.map write) (xs.map value) :=
  List.forall₂_map_left_iff.mpr (List.forall₂_map_right_iff.mpr
    (List.forall₂_same.mpr fun x _ => h x))

theorem spells_parameter (p : Parameter) : Spells (printParameter p) (parameterValue p) :=
  spells_object (List.rel_append
    (List.rel_append (spells_textMember "name" p.name) (spells_textMember "type" p.typeName))
    (.cons (spellsMember "size" (spells_number p.size))
      (.cons (spellsMember "align" (spells_number p.align)) .nil)))

theorem spells_kernel (k : KernelDecl) : Spells (printKernel k) (kernelValue k) :=
  spells_object (.cons (spellsMember "name" (spells_string k.name))
    (.cons (spellsMember "args" (spells_array (forall₂_map spells_parameter k.parameters))) .nil))

/-- **The compact form spells the value of the metadata.** -/
theorem parse_print (m : Metadata) : JsonText.parse m.print = some (metadataValue m) :=
  Spells.parse (spells_object
    (.cons (spellsMember "kernels" (spells_array (forall₂_map spells_kernel m.kernels))) .nil))

/-! ## What is read from it -/

/-- Size and alignment fit in a word of 64 bits. -/
def FitsWord (p : Parameter) : Prop := p.size ≤ maxWord ∧ p.align ≤ maxWord

instance (p : Parameter) : Decidable (FitsWord p) :=
  inferInstanceAs (Decidable (p.size ≤ maxWord ∧ p.align ≤ maxWord))

/-- All sizes and alignments fit in a word. -/
def Fits (m : Metadata) : Prop := ∀ k ∈ m.kernels, ∀ p ∈ k.parameters, FitsWord p

instance (m : Metadata) : Decidable m.Fits :=
  inferInstanceAs (Decidable (∀ k ∈ m.kernels, ∀ p ∈ k.parameters, FitsWord p))

theorem mapM_map_eq_some {α β : Type} {f : β → Option α} {g : α → β} {xs : List α}
    (h : ∀ x ∈ xs, f (g x) = some x) : (xs.map g).mapM f = some xs := by
  induction xs with
  | nil => rfl
  | cons x xs ih =>
    rw [List.map_cons, List.mapM_cons, h x List.mem_cons_self,
      ih fun y hy => h y (List.mem_cons_of_mem x hy)]
    rfl

theorem optionalText?_map (content : Option String) :
    optionalText? (content.map fun s => Value.string (some s)) = some content := by
  cases content <;> rfl

theorem fieldValues?_parameterValue (p : Parameter) :
    fieldValues? ["name", "type", "size", "align"] (parameterValue p) =
      some [p.name.map fun s => .string (some s), p.typeName.map fun s => .string (some s),
        some (.number (printNat p.size)), some (.number (printNat p.align))] := by
  unfold parameterValue textMember fieldValues?
  cases p.name <;> cases p.typeName <;> simp

theorem parameter?_parameterValue {p : Parameter} (h : FitsWord p) :
    parameter? (parameterValue p) = some p := by
  simp only [parameter?, fieldValues?_parameterValue, optionalText?_map, size?_printNat h.1,
    size?_printNat h.2, Option.bind_eq_bind, Option.bind_some]
  rfl

theorem kernel?_kernelValue {k : KernelDecl} (h : ∀ p ∈ k.parameters, FitsWord p) :
    kernel? (kernelValue k) = some k := by
  have hfields : fieldValues? ["name", "args"] (kernelValue k) =
      some [some (.string (some k.name)), some (.array (k.parameters.map parameterValue))] := by
    simp [fieldValues?, kernelValue]
  have hparameters : (k.parameters.map parameterValue).mapM parameter? = some k.parameters :=
    mapM_map_eq_some fun p hp => parameter?_parameterValue (h p hp)
  simp only [kernel?, hfields, text?, parameters?, hparameters, Option.bind_eq_bind,
    Option.bind_some]
  rfl

theorem ofValue?_metadataValue {m : Metadata} (h : m.Fits) :
    ofValue? (metadataValue m) = some m := by
  have hfields : fieldValues? ["kernels"] (metadataValue m) =
      some [some (.array (m.kernels.map kernelValue))] := by
    simp [fieldValues?, metadataValue]
  have hkernels : (m.kernels.map kernelValue).mapM kernel? = some m.kernels :=
    mapM_map_eq_some fun k hk => kernel?_kernelValue (h k hk)
  simp only [ofValue?, hfields, hkernels, Option.bind_eq_bind, Option.bind_some]
  rfl

theorem exists_of_mem_mapM {α β : Type} {f : β → Option α} {xs : List β} {ys : List α}
    (h : xs.mapM f = some ys) {y : α} (hy : y ∈ ys) : ∃ x ∈ xs, f x = some y := by
  induction xs generalizing ys with
  | nil =>
    cases h
    exact absurd hy List.not_mem_nil
  | cons x xs ih =>
    rw [List.mapM_cons] at h
    obtain ⟨z, hz, h⟩ := Option.bind_eq_some_iff.mp h
    obtain ⟨zs, hzs, h⟩ := Option.bind_eq_some_iff.mp h
    cases h
    rcases List.mem_cons.mp hy with rfl | hy
    · exact ⟨x, List.mem_cons_self, hz⟩
    · obtain ⟨w, hw, hfw⟩ := ih hzs hy
      exact ⟨w, List.mem_cons_of_mem x hw, hfw⟩

theorem fits_of_parameter? {v : Value} {p : Parameter} (h : parameter? v = some p) :
    FitsWord p := by
  unfold parameter? at h
  obtain ⟨fields, -, h⟩ := Option.bind_eq_some_iff.mp h
  split at h
  · obtain ⟨name, -, h⟩ := Option.bind_eq_some_iff.mp h
    obtain ⟨typeName, -, h⟩ := Option.bind_eq_some_iff.mp h
    obtain ⟨size, hsize, h⟩ := Option.bind_eq_some_iff.mp h
    obtain ⟨align, halign, h⟩ := Option.bind_eq_some_iff.mp h
    cases h
    exact ⟨le_of_size? hsize, le_of_size? halign⟩
  · cases h

theorem fits_of_kernel? {v : Value} {k : KernelDecl} (h : kernel? v = some k) :
    ∀ p ∈ k.parameters, FitsWord p := by
  unfold kernel? at h
  obtain ⟨fields, -, h⟩ := Option.bind_eq_some_iff.mp h
  split at h
  · obtain ⟨name, -, h⟩ := Option.bind_eq_some_iff.mp h
    obtain ⟨ps, hps, h⟩ := Option.bind_eq_some_iff.mp h
    cases h
    intro p hp
    unfold parameters? at hps
    split at hps
    · cases hps
      exact absurd hp List.not_mem_nil
    · obtain ⟨v, -, hv⟩ := exists_of_mem_mapM hps hp
      exact fits_of_parameter? hv
    · cases hps
  · cases h

/-- What was read from a document has no size of more than 64 bits. -/
theorem fits_of_parse? {text : String} {m : Metadata} (h : parse? text = some m) : m.Fits := by
  unfold parse? at h
  obtain ⟨v, -, h⟩ := Option.bind_eq_some_iff.mp h
  unfold ofValue? at h
  obtain ⟨fields, -, h⟩ := Option.bind_eq_some_iff.mp h
  split at h
  · obtain ⟨ks, hks, h⟩ := Option.bind_eq_some_iff.mp h
    cases h
    intro k hk
    obtain ⟨v, -, hv⟩ := exists_of_mem_mapM hks hk
    exact fits_of_kernel? hv
  · cases h

/-- **Metadata survives being written**: what is read from the compact form is the metadata that was
written, if only every size fits in a word; and whatever was read from a document is read again from
its compact form. -/
theorem parse?_print :
    (∀ m : Metadata, m.Fits → parse? m.print = some m) ∧
      ∀ (text : String) (m : Metadata), parse? text = some m → parse? m.print = some m := by
  have hprint (m : Metadata) (h : m.Fits) : parse? m.print = some m := by
    unfold parse?
    rw [parse_print, Option.bind_some]
    exact ofValue?_metadataValue h
  exact ⟨hprint, fun _ m h => hprint m (fits_of_parse? h)⟩

/-- Names that have to be escaped and names that need not be, absent names, the largest size. -/
def awkward : Metadata :=
  { kernels :=
      [{ name := "a\"b\\c\n\x01/ü🙂",
         parameters :=
           [{ name := some "", typeName := none, size := maxWord, align := 0 },
            { name := none, typeName := some "\x1f\x7f", size := 10, align := 8 }] },
       { name := "", parameters := [] }] }

/-- A document with blanks, an unknown member, an escaped letter and a kernel given as an array. -/
def roomyText : String :=
  " \x7b\"v\": null, \"kernels\" : [ [\"\\u0041\", [ \x7b\"align\":8, \"size\":4\x7d ] ] ] \x7d\n"

/-- What the roomy document declares. -/
def ofRoomyText : Metadata :=
  { kernels := [{ name := "A", parameters := [{ size := 4, align := 8 }] }] }

theorem parse?_print_awkward :
    (awkward.Fits ∧ parse? awkward.print = some awkward) ∧
      parse? roomyText = some ofRoomyText ∧ parse? ofRoomyText.print = some ofRoomyText := by
  have hfits : awkward.Fits := by decide
  have hroomy : parse? roomyText = some ofRoomyText := by decide +kernel
  exact ⟨⟨hfits, parse?_print.1 awkward hfits⟩, hroomy, parse?_print.2 roomyText ofRoomyText hroomy⟩

/-- The bound on sizes is needed: a larger one is written and not read. -/
example : parse? (print ⟨[⟨"k", [⟨none, none, maxWord + 1, 8⟩]⟩]⟩) = none := by decide +kernel

end Metadata

end DeviceCode
