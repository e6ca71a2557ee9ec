import DeviceCode.Text.Ranges

/-!
# Blank characters

The blanks are the characters with the White_Space property. `trim` takes them off both ends of a
text and `words` splits a text at them.
-/

namespace DeviceCode.Text

/-- The blanks as closed ranges of code points. -/
def blankRanges : List (Nat × Nat) :=
  [(0x9, 0xd), (0x20, 0x20), (0x85, 0x85), (0xa0, 0xa0), (0x1680, 0x1680), (0x2000, 0x200a),
   (0x2028, 0x2029), (0x202f, 0x202f), (0x205f, 0x205f), (0x3000, 0x3000)]

/-- A character with the White_Space property. -/
def isBlank (c : Char) : Bool := inRanges blankRanges c.toNat

/-- The text without the blanks at its ends. -/
def trimChars (cs : List Char) : List Char :=
  ((cs.dropWhile isBlank).reverse.dropWhile isBlank).reverse

/-- The text without the blanks at its ends. -/
def trim (s : String) : String := String.ofList (trimChars s.toList)

/-- Put a character in front of the first word when the text goes on without a blank. -/
def consWord (c : Char) (joined : Bool) : List (List Char) → List (List Char)
  | w :: ws => if joined then (c :: w) :: ws else [c] :: w :: ws
  | [] => [[c]]

/-- The words of a text: its longest runs without a blank, in order. -/
def words : List Char → List (List Char)
  | [] => []
  | c :: cs =>
    if isBlank c then words cs
    else consWord c (cs.head?.any (!isBlank ·)) (words cs)

/-- Equality when the case of ASCII letters is ignored. -/
def sameLetters (a b : String) : Bool := a.map Char.toLower == b.map Char.toLower

/-- `1`, `true` and `yes` switch a setting on, with blanks around them and in any case; every other
text leaves it off. -/
def isYes (s : String) : Bool :=
  let t := trim s
  t == "1" || sameLetters t "true" || sameLetters t "yes"

end DeviceCode.Text
