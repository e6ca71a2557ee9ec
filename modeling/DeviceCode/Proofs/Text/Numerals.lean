import DeviceCode.Proofs.Text.Blanks
import DeviceCode.Text.Numeral
import Mathlib.Data.List.Forall2
import Mathlib.Data.Nat.Digits.Defs
import Mathlib.Tactic.IntervalCases

/-!
# The grammar of numerals

`Numeral base cs n` says that a text is a numeral for `n`: at most one plus sign, then digits, the
first of them the most significant, whose number fits in 64 bits. Reading accepts this grammar and
nothing else (`numeral?_eq_some_iff`).

A numeral has no blank in it (`Numeral.solid`). A number that is written in a base, with zeros in
front or without, is a numeral for itself (`numeral_padded`).
-/

namespace DeviceCode.Text

/-- `c` stands for `d` in a base. Letters of either case come after the ten figures. -/
def IsDigit (base : Nat) (c : Char) (d : Nat) : Prop :=
  d < base ∧ ("0123456789abcdef".toList[d]? = some c ∨ "0123456789ABCDEF".toList[d]? = some c)

/-- These digits denote `n`, the most significant one first. -/
def Denotes (base : Nat) (cs : List Char) (n : Nat) : Prop :=
  ∃ ds, List.Forall₂ (IsDigit base) cs ds ∧ Nat.ofDigits base ds.reverse = n

/-- At most one plus sign, then one or more digits that denote `n`, which is below `2 ^ 64`. -/
def Numeral (base : Nat) (cs : List Char) (n : Nat) : Prop :=
  ∃ sign digits, cs = sign ++ digits ∧ (sign = [] ∨ sign = ['+']) ∧ digits ≠ [] ∧
    Denotes base digits n ∧ n < 2 ^ 64

/-- `n` written in a base, with zeros in front up to a width. -/
def padded (base width n : Nat) : List Char := (Nat.toDigits base n).leftpad width '0'

variable {base width n d acc : Nat} {c : Char} {cs : List Char}

/-! ## Digits -/

/-- A character of a range is told by its value, when the range counts on from `shift`. -/
theorem eq_ofNat_of_between {first last : Char} {shift : Nat} (h : first ≤ c ∧ c ≤ last)
    (hd : c.toNat - first.toNat + shift = d) :
    shift ≤ d ∧ d ≤ shift + (last.toNat - first.toNat) ∧
      c = Char.ofNat (first.toNat + (d - shift)) := by
  have hfirst : first.toNat ≤ c.toNat := h.1
  have hlast : c.toNat ≤ last.toNat := h.2
  have hplace : first.toNat + (d - shift) = c.toNat := by omega
  refine ⟨by omega, by omega, ?_⟩
  rw [hplace, Char.ofNat_toNat]

theorem IsDigit.value_lt (h : IsDigit base c d) : d < 16 := by
  rcases h.2 with h | h <;> exact (List.getElem?_eq_some_iff.mp h).1

theorem digitValue?_eq_some_iff : digitValue? base c = some d ↔ IsDigit base c d := by
  unfold digitValue?
  dsimp only
  rw [Option.filter_eq_some_iff, decide_eq_true_eq, and_comm]
  constructor
  · intro h
    obtain ⟨hbase, h⟩ := h
    refine ⟨hbase, ?_⟩
    split_ifs at h with hfigure hlower hupper
    · have hd : c.toNat - '0'.toNat + 0 = d := Option.some.inj h
      obtain ⟨-, hle, rfl⟩ := eq_ofNat_of_between hfigure hd
      change d ≤ 9 at hle
      interval_cases d <;> exact .inl rfl
    · obtain ⟨hge, hle, rfl⟩ := eq_ofNat_of_between hlower (Option.some.inj h)
      change d ≤ 15 at hle
      interval_cases d <;> exact .inl rfl
    · obtain ⟨hge, hle, rfl⟩ := eq_ofNat_of_between hupper (Option.some.inj h)
      change d ≤ 15 at hle
      interval_cases d <;> exact .inr rfl
  · intro h
    refine ⟨h.1, ?_⟩
    have hd := h.value_lt
    rcases h.2 with h | h <;> interval_cases d <;> cases h <;> rfl

/-- Digits lie between `0` and `f`. -/
theorem IsDigit.between (h : IsDigit base c d) : 0x30 ≤ c.toNat ∧ c.toNat ≤ 0x66 := by
  have hd := h.value_lt
  rcases h.2 with h | h <;> interval_cases d <;> cases h <;> decide

theorem IsDigit.ne_plus (h : IsDigit base c d) : c ≠ '+' := by
  intro hc
  have hlow : 0x30 ≤ c.toNat := h.between.1
  subst hc
  exact absurd hlow (by decide)

theorem IsDigit.not_blank (h : IsDigit base c d) : isBlank c = false := by
  obtain ⟨hlow, hhigh⟩ := h.between
  exact isBlank_eq_false (by omega) (by omega)

theorem isDigit_digitChar (hbase : base ≤ 16) (hd : d < base) :
    IsDigit base (Nat.digitChar d) d := by
  have hlt : d < 16 := by omega
  refine ⟨hd, .inl ?_⟩
  interval_cases d <;> rfl

/-! ## Reading digits -/

/-- The two most significant digits make up one number. -/
theorem ofDigits_carry (ds : List Nat) (d acc : Nat) :
    Nat.ofDigits base (ds ++ [d, acc]) = Nat.ofDigits base (ds ++ [base * acc + d]) := by
  rw [Nat.ofDigits_append, Nat.ofDigits_append, Nat.ofDigits_cons, Nat.ofDigits_singleton,
    Nat.ofDigits_singleton, Nat.add_comm d]

/-- Reading on from `acc` puts the digits after it. -/
theorem readDigits?_eq_some_iff :
    readDigits? base acc cs = some n ↔
      ∃ ds, List.Forall₂ (IsDigit base) cs ds ∧ Nat.ofDigits base (ds.reverse ++ [acc]) = n := by
  induction cs generalizing acc with
  | nil =>
    constructor
    · intro h
      exact ⟨[], .nil, Nat.ofDigits_singleton.trans (Option.some.inj h)⟩
    · intro h
      obtain ⟨ds, hds, hn⟩ := h
      cases hds
      exact congrArg some (Nat.ofDigits_singleton.symm.trans hn)
  | cons c cs ih =>
    rw [readDigits?]
    constructor
    · intro h
      cases hc : digitValue? base c with
      | none =>
        rw [hc] at h
        cases h
      | some d =>
        rw [hc] at h
        obtain ⟨ds, hds, hn⟩ := ih.mp h
        refine ⟨d :: ds, .cons (digitValue?_eq_some_iff.mp hc) hds, ?_⟩
        rw [List.reverse_cons, List.append_assoc, List.singleton_append, ofDigits_carry, hn]
    · intro h
      obtain ⟨ds, hds, hn⟩ := h
      cases hds with
      | @cons _ d _ ds hd hds =>
        rw [digitValue?_eq_some_iff.mpr hd]
        refine ih.mpr ⟨ds, hds, ?_⟩
        rw [← hn, List.reverse_cons, List.append_assoc, List.singleton_append, ofDigits_carry]

theorem digits?_eq_some_iff : digits? base cs = some n ↔ cs ≠ [] ∧ Denotes base cs n := by
  cases cs with
  | nil => simp [digits?]
  | cons c cs =>
    show readDigits? base 0 (c :: cs) = some n ↔ _
    simp only [readDigits?_eq_some_iff, Nat.ofDigits_append_zero, Denotes, ne_eq,
      reduceCtorEq, not_false_eq_true, true_and]

theorem Denotes.exists_isDigit (h : Denotes base cs n) (hc : c ∈ cs) : ∃ d, IsDigit base c d := by
  obtain ⟨ds, hds, -⟩ := h
  induction hds with
  | nil => cases hc
  | @cons _ d _ _ hd _ ih =>
    rcases List.mem_cons.mp hc with rfl | hc
    · exact ⟨d, hd⟩
    · exact ih hc

theorem Denotes.solid (h : Denotes base cs n) : Solid cs := by
  intro c hc
  obtain ⟨d, hd⟩ := h.exists_isDigit hc
  exact hd.not_blank

/-- One or more digits, for a number of at most 64 bits. -/
theorem filter_digits?_eq_some_iff :
    (digits? base cs).filter (· ≤ maxWord) = some n ↔
      cs ≠ [] ∧ Denotes base cs n ∧ n < 2 ^ 64 := by
  have hword : n ≤ maxWord ↔ n < 2 ^ 64 := (Nat.lt_iff_le_pred (Nat.two_pow_pos 64)).symm
  rw [Option.filter_eq_some_iff, digits?_eq_some_iff, decide_eq_true_eq, hword, and_assoc]

theorem numeral?_of_head (h : cs.head? ≠ some '+') :
    numeral? base cs = (digits? base cs).filter (· ≤ maxWord) := by
  unfold numeral?
  split
  · exact absurd rfl h
  · rfl

/-- **Reading a numeral accepts the grammar and nothing else.** -/
theorem numeral?_eq_some_iff : numeral? base cs = some n ↔ Numeral base cs n := by
  constructor
  · intro h
    by_cases hplus : cs.head? = some '+'
    · obtain ⟨digits, rfl⟩ := List.head?_eq_some_iff.mp hplus
      exact ⟨['+'], digits, rfl, .inr rfl, filter_digits?_eq_some_iff.mp h⟩
    · rw [numeral?_of_head hplus] at h
      exact ⟨[], cs, rfl, .inl rfl, filter_digits?_eq_some_iff.mp h⟩
  · intro h
    obtain ⟨sign, digits, rfl, hsign, hne, hdigits, hlt⟩ := h
    rcases hsign with rfl | rfl
    · -- the first digit is no plus sign, so nothing is taken off
      have hhead : digits.head? ≠ some '+' := by
        intro hplus
        obtain ⟨rest, rfl⟩ := List.head?_eq_some_iff.mp hplus
        obtain ⟨d, hd⟩ := hdigits.exists_isDigit List.mem_cons_self
        exact hd.ne_plus rfl
      exact (numeral?_of_head hhead).trans (filter_digits?_eq_some_iff.mpr ⟨hne, hdigits, hlt⟩)
    · exact filter_digits?_eq_some_iff.mpr ⟨hne, hdigits, hlt⟩

theorem Numeral.solid (h : Numeral base cs n) : Solid cs := by
  obtain ⟨sign, digits, rfl, hsign, -, hdigits, -⟩ := h
  have hsolid : Solid sign := by
    rcases hsign with rfl | rfl
    · exact nofun
    · exact solid_cons.mpr ⟨by decide, nofun⟩
  exact solid_append.mpr ⟨hsolid, hdigits.solid⟩

theorem Numeral.ne_nil (h : Numeral base cs n) : cs ≠ [] := by
  obtain ⟨sign, digits, rfl, -, hne, -⟩ := h
  simp [hne]

/-! ## Writing numbers -/

/-- One more digit comes after the ones before. -/
theorem Denotes.concat (h : Denotes base cs n) (hd : IsDigit base c d) :
    Denotes base (cs ++ [c]) (base * n + d) := by
  obtain ⟨ds, hds, rfl⟩ := h
  refine ⟨ds ++ [d], List.rel_append hds (.cons hd .nil), ?_⟩
  rw [List.reverse_append, List.reverse_singleton, List.singleton_append, Nat.ofDigits_cons,
    Nat.add_comm]

theorem Denotes.zero_cons (hbase : 0 < base) (h : Denotes base cs n) :
    Denotes base ('0' :: cs) n := by
  obtain ⟨ds, hds, rfl⟩ := h
  refine ⟨0 :: ds, .cons ⟨hbase, .inl rfl⟩ hds, ?_⟩
  rw [List.reverse_cons, Nat.ofDigits_append_zero]

theorem denotes_toDigits (hone : 1 < base) (hbase : base ≤ 16) (n : Nat) :
    Denotes base (Nat.toDigits base n) n := by
  induction n using Nat.strongRecOn with
  | ind n ih =>
    by_cases hn : n < base
    · rw [Nat.toDigits_of_lt_base hn]
      exact ⟨[n], .cons (isDigit_digitChar hbase hn) .nil, Nat.ofDigits_singleton⟩
    · rw [Nat.toDigits_of_base_le hone (Nat.not_lt.mp hn)]
      have hlt : n / base < n := Nat.div_lt_self (by omega) hone
      have hlast := isDigit_digitChar hbase (Nat.mod_lt n (Nat.zero_lt_of_lt hone))
      have h := (ih (n / base) hlt).concat hlast
      rwa [Nat.div_add_mod] at h

theorem denotes_padded (hone : 1 < base) (hbase : base ≤ 16) (width n : Nat) :
    Denotes base (padded base width n) n := by
  unfold padded List.leftpad
  generalize width - (Nat.toDigits base n).length = zeros
  induction zeros with
  | zero => exact denotes_toDigits hone hbase n
  | succ zeros ih => exact ih.zero_cons (Nat.zero_lt_of_lt hone)

theorem padded_ne_nil (base width n : Nat) : padded base width n ≠ [] := by
  unfold padded List.leftpad
  simp [Nat.toDigits_ne_nil]

/-- A written number is read back. -/
theorem numeral_padded (hone : 1 < base) (hbase : base ≤ 16) (width : Nat) (hn : n < 2 ^ 64) :
    Numeral base (padded base width n) n :=
  ⟨[], padded base width n, rfl, .inl rfl, padded_ne_nil base width n,
    denotes_padded hone hbase width n, hn⟩

end DeviceCode.Text
