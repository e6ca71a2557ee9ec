import DeviceCode.Trace.Directive

/-!
# Filters

A filter is a list of directives separated by commas, and lets through what any of them does. One
without directives lets nothing through. `parse?` asks for well-formed directives alone, while
`parseLossy` reads what it can.
-/

namespace DeviceCode.Trace

/-- The directives of a filter. -/
abbrev Filter := List Directive

namespace Filter

/-- The pieces of a text between commas, without the empty ones. -/
def pieces (s : String) : List (List Char) :=
  ((s.splitOn ",").filter (· != "")).map String.toList

/-- Every directive must be well formed. -/
def parse? (s : String) : Option Filter := (pieces s).mapM Directive.parse?

/-- Directives that are not well formed are left out. When none is left, errors are let through. -/
def parseLossy (s : String) : Filter :=
  match (pieces s).filterMap Directive.parse? with
  | [] => [{ level := some .error }]
  | ds => ds

def rankOf : Option Level → Nat
  | none => 0
  | some l => l.rank

/-- The most detailed level that may be let through. The value of a field shows only after its span
has begun, so a directive that asks for one may let everything through until then. -/
def maxLevel (f : Filter) : Option Level :=
  if f.any fun d => d.field.any (·.value.isSome) then some .trace
  else f.foldl (fun best d => if rankOf best < rankOf d.level then d.level else best) none

/-- The most detailed level by name, `off` when nothing is let through. -/
def maxLevelName (f : Filter) : String :=
  match f.maxLevel with
  | none => "off"
  | some l => l.name.toLower

end Filter

end DeviceCode.Trace
