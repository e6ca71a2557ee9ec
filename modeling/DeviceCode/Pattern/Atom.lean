import DeviceCode.Pattern.Mode
import DeviceCode.Text.Numeral

/-!
# Atoms of a pattern

The smallest parts of a pattern, and the modes that allow them. Letters can be compared without
regard to case, and digits, blanks and words recognised, among the bytes of ASCII only, so these
atoms and the mode of characters exclude each other. No property of characters is known.
-/

namespace DeviceCode.Pattern

/-- One character or escape. -/
inductive Atom where
  /-- A character that stands for itself; `isByte` if it was written as the number of a byte. -/
  | literal (c : Char) (isByte : Bool)
  /-- The digits, the blanks or the characters of words, or all others. -/
  | charClass (negated : Bool)
  /-- Any character but the end of a line. -/
  | any
  /-- An end of a line or of the text. -/
  | textEdge
  /-- An end of a word, or a place that is none. -/
  | wordEdge
  deriving DecidableEq, Repr

namespace Atom

def plain (c : Char) : Atom := .literal c false

/-- Whether an atom may stand outside sets. -/
def allowed (m : Mode) : Atom → Bool
  | .literal c isByte => if m.unicode then !m.ignoreCase else !isByte || c.toNat < 0x80
  | .charClass negated => !m.unicode && !negated
  | .any => m.unicode
  | .textEdge => true
  | .wordEdge => !m.unicode

/-- Whether an atom may stand in a set. -/
def allowedInSet (m : Mode) : Atom → Bool
  | .literal c _ => if m.unicode then !m.ignoreCase else c.toNat < 0x80
  | .charClass negated => !m.unicode && !negated
  | _ => false

end Atom

/-- Reads `n` hexadecimal digits on top of `acc`. -/
def hexDigits? (m : Mode) : Nat → Nat → List Char → Option (Nat × List Char)
  | 0, acc, cs => some (acc, cs)
  | n + 1, acc, cs =>
    match m.skip cs with
    | [] => none
    | c :: rest =>
      match Text.digitValue? 16 c with
      | none => none
      | some d => hexDigits? m n (16 * acc + d) rest

/-- Reads the number of a character. -/
def codePoint? (m : Mode) (digits : Nat) (cs : List Char) : Option (Char × List Char) :=
  match hexDigits? m digits 0 cs with
  | none => none
  | some (n, rest) => if n.isValidChar then some (Char.ofNat n, rest) else none

/-- The control characters that have a letter. -/
def controlLetters : List (Char × Char) :=
  [('a', '\x07'), ('f', '\x0c'), ('t', '\t'), ('n', '\n'), ('r', '\r'), ('v', '\x0b')]

/-- A mark of ASCII can be escaped without need. Angle brackets are ends of words instead. -/
def isMark (c : Char) : Bool := c.toNat < 0x80 && !c.isAlphanum && c != '<' && c != '>'

/-- Reads what follows a backslash. -/
def escape? (m : Mode) : List Char → Option (Atom × List Char)
  | [] => none
  | 'x' :: rest => (codePoint? m 2 rest).map fun (c, rest) => (.literal c true, rest)
  | 'u' :: rest => (codePoint? m 4 rest).map fun (c, rest) => (.plain c, rest)
  | 'U' :: rest => (codePoint? m 8 rest).map fun (c, rest) => (.plain c, rest)
  | c :: rest =>
    if isMark c then some (.plain c, rest)
    else if "dsw".toList.contains c then some (.charClass false, rest)
    else if "DSW".toList.contains c then some (.charClass true, rest)
    else if "Az".toList.contains c then some (.textEdge, rest)
    else if "bB<>".toList.contains c then some (.wordEdge, rest)
    else (controlLetters.lookup c).map fun c => (.plain c, rest)

/-- Reads an atom inside a set, where only the backslash has a meaning of its own. -/
def setAtom? (m : Mode) : List Char → Option (Atom × List Char)
  | [] => none
  | '\\' :: rest => escape? m rest
  | c :: rest => some (.plain c, rest)

/-- Reads an atom outside sets. -/
def atom? (m : Mode) : List Char → Option (Atom × List Char)
  | '.' :: rest => some (.any, rest)
  | '^' :: rest => some (.textEdge, rest)
  | '$' :: rest => some (.textEdge, rest)
  | cs => setAtom? m cs

end DeviceCode.Pattern
