import DeviceCode.Bytes

/-!
# Numerals in settings and listings

A numeral is one or more digits of its base, with at most one plus sign in front; leading zeros are
allowed. It must stand for a number below `2 ^ 64`.
-/

namespace DeviceCode.Text

/-- The value of a digit in bases up to sixteen; letters of either case. -/
def digitValue? (base : Nat) (c : Char) : Option Nat :=
  let value :=
    if '0' ≤ c ∧ c ≤ '9' then some (c.toNat - '0'.toNat)
    else if 'a' ≤ c ∧ c ≤ 'f' then some (c.toNat - 'a'.toNat + 10)
    else if 'A' ≤ c ∧ c ≤ 'F' then some (c.toNat - 'A'.toNat + 10)
    else none
  value.filter (· < base)

/-- The number that follows `acc` when these digits are read on. -/
def readDigits? (base acc : Nat) : List Char → Option Nat
  | [] => some acc
  | c :: cs =>
    match digitValue? base c with
    | none => none
    | some d => readDigits? base (base * acc + d) cs

/-- One or more digits, as a number. -/
def digits? (base : Nat) : List Char → Option Nat
  | [] => none
  | cs => readDigits? base 0 cs

/-- A numeral for a number that fits in 64 bits. -/
def numeral? (base : Nat) (cs : List Char) : Option Nat :=
  let digits := match cs with
    | '+' :: rest => rest
    | cs => cs
  (digits? base digits).filter (· ≤ maxWord)

end DeviceCode.Text
