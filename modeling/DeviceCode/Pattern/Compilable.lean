import DeviceCode.Pattern.CharSet
import DeviceCode.Text.Alphanumeric

/-!
# Patterns that can be compiled

`isCompilable` tells which texts are patterns: groups and sets are closed, what is repeated stands
in front of its mark, every atom is allowed by the mode that it is read in, and nothing is nested
too deep. A text without closing braces is asked about, so there is no counted repetition and no
other part that needs one.
-/

namespace DeviceCode.Pattern

/-- How deep the parts of a pattern may be nested. -/
def maxNesting : Nat := 250

/-- A part of a branch. -/
structure Part where
  depth : Nat
  /-- Switches take no room, so they cannot be repeated. -/
  isSwitch : Bool := false
  deriving DecidableEq, Repr

/-- A group whose end is still to come. -/
structure OpenGroup where
  /-- The parts of the branch that is read, the last one first. -/
  parts : List Part := []
  /-- The depths of the branches in front of it. -/
  branches : List Nat := []
  deriving DecidableEq, Repr

namespace OpenGroup

def add (g : OpenGroup) (p : Part) : OpenGroup := { g with parts := p :: g.parts }

def branchDepth (g : OpenGroup) : Nat := nesting (g.parts.map (·.depth))

def nextBranch (g : OpenGroup) : OpenGroup := ⟨[], g.branchDepth :: g.branches⟩

/-- The depth of all branches. -/
def depth (g : OpenGroup) : Nat := nesting (g.branchDepth :: g.branches)

/-- The group with its last part repeated. -/
def repeatLast? (g : OpenGroup) : Option OpenGroup :=
  match g.parts with
  | [] => none
  | p :: parts =>
    if p.isSwitch then none else some { g with parts := ⟨p.depth + 1, false⟩ :: parts }

end OpenGroup

/-- The name of a group starts with a letter or an underscore. -/
def isGroupName : List Char → Bool
  | [] => false
  | c :: cs =>
    (c == '_' || Text.isAlphabetic c)
      && cs.all fun c => "_.[]".toList.contains c || Text.isAlphanumeric c

/-- What an opening parenthesis begins. -/
inductive GroupStart where
  /-- Switches for the rest of the group around them. -/
  | switches (m : Mode)
  | group (m : Mode)
  | named (name : List Char)
  deriving DecidableEq, Repr

/-- Reads a name up to the angle bracket that closes it. -/
def groupName? (cs : List Char) : Option (GroupStart × List Char) :=
  let name := cs.takeWhile (· ≠ '>')
  match cs.dropWhile (· ≠ '>') with
  | [] => none
  | _ :: rest => if isGroupName name then some (.named name, rest) else none

/-- Reads what follows an opening parenthesis. -/
def groupStart? (m : Mode) (cs : List Char) : Option (GroupStart × List Char) :=
  match m.skip cs with
  | '?' :: 'P' :: '<' :: rest => groupName? rest
  | '?' :: '<' :: rest => groupName? rest
  | '?' :: rest =>
    match switches? rest with
    | none => none
    | some ([], ')', _) => none
    | some (body, ')', rest) => some (.switches (m.turn body), rest)
    | some (body, _, rest) => some (.group (m.turn body), rest)
  | rest => some (.group m, rest)

/-- Leave out the mark that makes a repetition lazy. -/
def dropLazy : List Char → List Char
  | '?' :: rest => rest
  | rest => rest

/-- Reads a pattern to its end, inside the groups `outer`, each with the mode that is in force when
the group in it ends. The answer is the depth of the pattern. Each step reads a character at least,
so their number is fuel enough. -/
def readPattern? : Nat → List (OpenGroup × Mode) → List (List Char) → OpenGroup → Mode → List Char →
    Option Nat
  | 0, _, _, _, _, _ => none
  | fuel + 1, outer, names, g, m, cs =>
    match m.skip cs with
    | [] => if outer = [] then some g.depth else none
    | '(' :: rest =>
      match groupStart? m rest with
      | none => none
      | some (.switches inner, rest) => readPattern? fuel outer names (g.add ⟨0, true⟩) inner rest
      | some (.group inner, rest) => readPattern? fuel ((g, m) :: outer) names {} inner rest
      | some (.named name, rest) =>
        if names.contains name then none
        else readPattern? fuel ((g, m) :: outer) (name :: names) {} m rest
    | ')' :: rest =>
      match outer with
      | [] => none
      | (parent, before) :: outer =>
        readPattern? fuel outer names (parent.add ⟨g.depth + 1, false⟩) before rest
    | '|' :: rest => readPattern? fuel outer names g.nextBranch m rest
    | '[' :: rest =>
      match charSet? m rest with
      | none => none
      | some (depth, rest) => readPattern? fuel outer names (g.add ⟨depth, false⟩) m rest
    | '\x7b' :: _ => none
    | c :: rest =>
      if "?*+".toList.contains c then
        match g.repeatLast? with
        | none => none
        | some g => readPattern? fuel outer names g m (dropLazy rest)
      else
        match atom? m (c :: rest) with
        | none => none
        | some (atom, rest) =>
          if atom.allowed m then readPattern? fuel outer names (g.add ⟨0, false⟩) m rest else none

/-- Whether a text is a pattern. -/
def isCompilable (cs : List Char) : Bool :=
  (readPattern? (cs.length + 1) [] [] {} {} cs).any (· ≤ maxNesting)

example : isCompilable "(?x) [a-f]+ | (?-u:\\d)*? # digits".toList := by decide +kernel

example : ["(", "a|*", "[z-a]", "\\d", "(?i)a"].all fun s => !isCompilable s.toList := by
  decide +kernel

end DeviceCode.Pattern
