import DeviceCode.Text.Blank

/-!
# Numbers

A number may have a sign, then digits with at most one point among them, and a power of ten behind
an `e`. Infinity and the value that is no number are written as words.
-/

namespace DeviceCode.Text

/-- The text without a sign in front. -/
def dropSign : List Char → List Char
  | '+' :: cs => cs
  | '-' :: cs => cs
  | cs => cs

/-- At least one digit, and at most one point before, among or behind the digits. -/
def isFraction (cs : List Char) : Bool :=
  match cs.dropWhile Char.isDigit with
  | [] => cs ≠ []
  | '.' :: places => places.all Char.isDigit && cs ≠ ['.']
  | _ => false

/-- The words that stand for numbers, in any case. -/
def numberWords : List String := ["inf", "infinity", "nan"]

def isNumber (cs : List Char) : Bool :=
  let body := dropSign cs
  let fraction := body.takeWhile fun c => c ≠ 'e' ∧ c ≠ 'E'
  let power := body.dropWhile fun c => c ≠ 'e' ∧ c ≠ 'E'
  numberWords.any (sameLetters (String.ofList body) ·)
    || isFraction fraction
      && (power = [] || dropSign (power.drop 1) ≠ [] && (dropSign (power.drop 1)).all Char.isDigit)

end DeviceCode.Text
