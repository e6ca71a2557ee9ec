import DeviceCode.Pattern.Atom

/-!
# Sets of characters in a pattern

A set stands in brackets: `[a-z\]]`. It holds characters, ranges, named sets of ASCII and further
sets, and an operator between two runs of them takes what both hold, what only the first holds, or
what just one of them holds. A caret that comes first stands for all other characters. Dashes that
come first stand for themselves, and so does a closing bracket in front of everything else.
-/

namespace DeviceCode.Pattern

/-- How deep parts of these depths are nested when they stand together. One part is not nested any
deeper than it was. -/
def nesting : List Nat → Nat
  | [] => 0
  | [d] => d
  | ds => ds.foldl max 0 + 1

/-- The names of sets of ASCII characters. -/
def asciiSets : List String :=
  ["alnum", "alpha", "ascii", "blank", "cntrl", "digit", "graph", "lower", "print", "punct",
   "space", "upper", "word", "xdigit"]

/-- Reads the name of a set between colons behind an opening bracket, and tells whether all other
characters are meant. -/
def asciiSet? : List Char → Option (Bool × List Char)
  | ':' :: rest =>
    let (negated, rest) := match rest with
      | '^' :: rest => (true, rest)
      | rest => (false, rest)
    match rest.dropWhile (· ≠ ':') with
    | ':' :: ']' :: after =>
      if asciiSets.contains (String.ofList (rest.takeWhile (· ≠ ':'))) then some (negated, after)
      else none
    | _ => none
  | _ => none

/-- A set whose closing bracket is still to come. -/
structure OpenSet where
  /-- Nothing but dashes was read. -/
  atStart : Bool := true
  /-- The depths of the parts since the last operator. -/
  parts : List Nat := []
  /-- The depth of what stands in front of the last operator. -/
  left : Option Nat := none
  deriving DecidableEq, Repr

namespace OpenSet

def add (s : OpenSet) (depth : Nat) : OpenSet :=
  { s with atStart := false, parts := depth :: s.parts }

/-- The depth of all that was read. Operators nest to the left. -/
def content (s : OpenSet) : Nat :=
  match s.left with
  | none => nesting s.parts
  | some d => max d (nesting s.parts) + 1

def operator (s : OpenSet) : OpenSet := ⟨false, [], some s.content⟩

end OpenSet

/-- Reads the caret of a set. The complement of a set of bytes holds bytes that are no text. -/
def openSet? (m : Mode) (cs : List Char) : Option (OpenSet × List Char) :=
  match m.skip cs with
  | '^' :: rest => if m.unicode then some ({}, rest) else none
  | rest => some ({}, rest)

/-- Reads a character or a range. A range has no more characters than lie between its ends, which
are in order. A dash is no range in front of a bracket or another dash. -/
def setPart? (m : Mode) (cs : List Char) : Option (List Char) := do
  let (first, rest) ← setAtom? m cs
  guard (first.allowedInSet m)
  match m.skip rest with
  | '-' :: after =>
    if m.peek? after = some ']' ∨ m.peek? after = some '-' then return '-' :: after
    let (last, rest) ← setAtom? m (m.skip after)
    guard (last.allowedInSet m)
    match first, last with
    | .literal lo _, .literal hi _ => if lo ≤ hi then return rest else none
    | _, _ => none
  | rest => return rest

/-- Reads a set up to its closing bracket. The answer is its depth. Each step reads a character at
least, so their number is fuel enough. -/
def readSet? (m : Mode) : Nat → List OpenSet → OpenSet → List Char → Option (Nat × List Char)
  | 0, _, _, _ => none
  | fuel + 1, outer, s, cs =>
    match m.skip cs with
    | '-' :: rest =>
      if s.atStart then
        if (Atom.plain '-').allowedInSet m then
          readSet? m fuel outer { s.add 0 with atStart := true } rest
        else none
      else if rest.head? = some '-' then readSet? m fuel outer s.operator (rest.drop 1)
      else do readSet? m fuel outer (s.add 0) (← setPart? m ('-' :: rest))
    | ']' :: rest =>
      if s.atStart ∧ s.parts = [] then
        if (Atom.plain ']').allowedInSet m then readSet? m fuel outer (s.add 0) rest else none
      else
        match outer with
        | [] => some (s.content + 1, rest)
        | parent :: outer => readSet? m fuel outer (parent.add (s.content + 1)) rest
    | '&' :: '&' :: rest => readSet? m fuel outer s.operator rest
    | '~' :: '~' :: rest => readSet? m fuel outer s.operator rest
    | '[' :: rest =>
      match asciiSet? rest with
      | none => do
        let (inner, rest) ← openSet? m rest
        readSet? m fuel (s :: outer) inner rest
      | some (negated, rest) =>
        if if m.unicode then m.ignoreCase else negated then none
        else readSet? m fuel outer (s.add 0) rest
    | rest => do readSet? m fuel outer (s.add 0) (← setPart? m rest)

/-- Reads what follows the opening bracket of a set. -/
def charSet? (m : Mode) (cs : List Char) : Option (Nat × List Char) := do
  let (s, rest) ← openSet? m cs
  readSet? m (rest.length + 1) [] s rest

end DeviceCode.Pattern
