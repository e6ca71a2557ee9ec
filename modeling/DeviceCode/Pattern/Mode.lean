import DeviceCode.Text.Blank

/-!
# Modes of a pattern

A pattern is a regular expression. How one of its characters is read depends on switches, which the
pattern can turn on and off itself, for the rest of the group that they stand in or for a group of
their own. Only the switches that decide whether a pattern can be compiled are kept in a `Mode`.
-/

namespace DeviceCode.Pattern

/-- The switches in force. -/
structure Mode where
  /-- A pattern is about characters. Otherwise it is about bytes, of which it may name those of
  ASCII only, since what it finds has to be text. -/
  unicode : Bool := true
  ignoreCase : Bool := false
  /-- Blanks and comments are left out. -/
  spaced : Bool := false
  deriving DecidableEq, Repr

/-- The letters of the switches: case, lines, line ends, laziness and the three of `Mode`. -/
def switchLetters : List Char := "imsRUux".toList

/-- Reads switches and the mark behind them. A dash turns the switches that follow it off. No
switch is named twice, and a dash is not the last of them. -/
def switches? (cs : List Char) : Option (List Char × Char × List Char) :=
  let body := cs.takeWhile fun c => c ≠ ':' ∧ c ≠ ')'
  match cs.dropWhile fun c => c ≠ ':' ∧ c ≠ ')' with
  | [] => none
  | mark :: rest =>
    if body.all (('-' :: switchLetters).contains ·) ∧ body.Nodup ∧ body.getLast? ≠ some '-' then
      some (body, mark, rest)
    else none

namespace Mode

/-- The mode after these switches. -/
def turn (m : Mode) (switches : List Char) : Mode :=
  let turned (c : Char) (current : Bool) :=
    if (switches.takeWhile (· ≠ '-')).contains c then true
    else if switches.contains c then false
    else current
  { unicode := turned 'u' m.unicode
    ignoreCase := turned 'i' m.ignoreCase
    spaced := turned 'x' m.spaced }

/-- What follows blanks and comments. A comment goes from a hash sign to the end of its line. -/
def dropComments (inComment : Bool) : List Char → List Char
  | [] => []
  | c :: cs =>
    if inComment then dropComments (c ≠ '\n') cs
    else if c = '#' then dropComments true cs
    else if Text.isBlank c then dropComments false cs
    else c :: cs

/-- What is read next. -/
def skip (m : Mode) (cs : List Char) : List Char := if m.spaced then dropComments false cs else cs

/-- The character that a look ahead finds. It passes over blanks and over the hash sign of one
comment, but not over the text of the comment. -/
def peek? (m : Mode) (cs : List Char) : Option Char :=
  if m.spaced then
    match cs.dropWhile Text.isBlank with
    | '#' :: rest => (rest.dropWhile Text.isBlank).head?
    | rest => rest.head?
  else cs.head?

end Mode

end DeviceCode.Pattern
