import DeviceCode.Proofs.Text.Blanks
import DeviceCode.Proofs.Text.Numerals
import DeviceCode.Settings

/-!
# Addresses as text

`IsAddress cs n` says which texts name the address `n`: a hexadecimal numeral behind a `0x` mark of
either case, or a decimal numeral. The mark comes before the plus sign of the numeral, not after it.
`parseAddress?_eq_some_iff` says that a setting is read as an address if and only if it is such a
text with blanks around it, and which address that is.
-/

namespace DeviceCode

open Text

/-- A text that names the address `n`. -/
inductive IsAddress : List Char → Nat → Prop
  | hexadecimal {mark : Char} {digits : List Char} {n : Nat} (hmark : mark = 'x' ∨ mark = 'X')
      (h : Numeral 16 digits n) : IsAddress ('0' :: mark :: digits) n
  | decimal {digits : List Char} {n : Nat} (h : Numeral 10 digits n) : IsAddress digits n

variable {base n : Nat} {c mark : Char} {cs digits : List Char} {text : String} {v : UInt64}

namespace IsAddress

theorem solid (h : IsAddress cs n) : Solid cs := by
  cases h with
  | decimal h => exact h.solid
  | hexadecimal hmark h =>
    refine solid_cons.mpr ⟨by decide, solid_cons.mpr ⟨?_, h.solid⟩⟩
    rcases hmark with rfl | rfl <;> decide

theorem ne_nil (h : IsAddress cs n) : cs ≠ [] := by
  cases h with
  | decimal h => exact h.ne_nil
  | hexadecimal _ _ => exact List.cons_ne_nil _ _

end IsAddress

/-! ## Reading -/

/-- A mark is no digit, so no decimal numeral has one. -/
theorem not_numeral_marked (hmark : mark = 'x' ∨ mark = 'X') :
    ¬ Numeral 10 ('0' :: mark :: digits) n := by
  intro h
  obtain ⟨sign, ds, heq, hsign, -, ⟨values, hds, -⟩, -⟩ := h
  rcases hsign with rfl | rfl
  · rw [List.nil_append] at heq
    subst heq
    cases hds with
    | cons _ hds =>
      cases hds with
      | cons hd _ =>
        have hvalue := digitValue?_eq_some_iff.mpr hd
        rcases hmark with rfl | rfl <;> cases hvalue
  · cases heq

theorem isAddress_marked_iff (hmark : mark = 'x' ∨ mark = 'X') :
    IsAddress ('0' :: mark :: digits) n ↔ Numeral 16 digits n := by
  constructor
  · intro h
    cases h with
    | hexadecimal _ h => exact h
    | decimal h => exact absurd h (not_numeral_marked hmark)
  · exact .hexadecimal hmark

theorem isAddress_unmarked_iff
    (hmark : ∀ mark rest, cs = '0' :: mark :: rest → mark ≠ 'x' ∧ mark ≠ 'X') :
    IsAddress cs n ↔ Numeral 10 cs n := by
  constructor
  · intro h
    cases h with
    | decimal h => exact h
    | hexadecimal hx _ =>
      obtain ⟨hlower, hupper⟩ := hmark _ _ rfl
      rcases hx with rfl | rfl
      · exact absurd rfl hlower
      · exact absurd rfl hupper
  · exact .decimal

/-- A numeral as a word. -/
theorem map_numeral?_eq_some_iff :
    (numeral? base cs).map UInt64.ofNat = some v ↔ Numeral base cs v.toNat := by
  rw [← numeral?_eq_some_iff]
  constructor
  · intro h
    obtain ⟨n, hn, rfl⟩ := Option.map_eq_some_iff.mp h
    obtain ⟨_, _, _, _, _, _, hlt⟩ := numeral?_eq_some_iff.mp hn
    rwa [UInt64.toNat_ofNat_of_lt' hlt]
  · intro h
    rw [h, Option.map_some, UInt64.ofNat_toNat]

theorem parseAddress?_trimmed :
    parseAddress? text = some v ↔ IsAddress (trimChars text.toList) v.toNat := by
  unfold parseAddress?
  dsimp only
  split
  · next digits heq => rw [heq, map_numeral?_eq_some_iff, isAddress_marked_iff (.inl rfl)]
  · next digits heq => rw [heq, map_numeral?_eq_some_iff, isAddress_marked_iff (.inr rfl)]
  · next hlower hupper =>
    rw [map_numeral?_eq_some_iff, isAddress_unmarked_iff]
    intro mark rest heq
    constructor
    · intro hmark
      exact hlower rest (hmark ▸ heq)
    · intro hmark
      exact hupper rest (hmark ▸ heq)

/-- **A setting is read as an address exactly if it names one.** Nothing but blanks may stand around
the address; every other text is refused. -/
theorem parseAddress?_eq_some_iff (text : String) (v : UInt64) :
    parseAddress? text = some v ↔
      ∃ lead address trail, text.toList = lead ++ address ++ trail ∧
        Blanks lead ∧ Blanks trail ∧ IsAddress address v.toNat := by
  rw [parseAddress?_trimmed]
  constructor
  · intro h
    obtain ⟨lead, trail, heq, hlead, htrail⟩ := exists_surrounded text.toList
    exact ⟨lead, trimChars text.toList, trail, heq, hlead, htrail, h⟩
  · intro h
    obtain ⟨lead, address, trail, heq, hlead, htrail, h⟩ := h
    rwa [heq, trimChars_surrounded hlead h.solid h.ne_nil htrail]

/-- The plus sign stands behind the mark and not before it. -/
example : parseAddress? "\t0X+00fF\n" = some 255 ∧ parseAddress? "+0xff" = none := by decide

end DeviceCode
