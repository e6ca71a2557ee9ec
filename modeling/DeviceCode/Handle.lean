import DeviceCode.Text.Hex

/-!
# Handles

The accelerator hands out numbers for the things it keeps. A number is only meaningful together with
what it stands for, so the kind of thing is part of the type of a handle.
-/

namespace DeviceCode

/-- What a handle stands for. -/
inductive HandleKind where
  /-- An accelerator that code can be loaded onto. -/
  | agent
  /-- An execution context that holds loaded code. -/
  | executable
  /-- A code object read from memory. -/
  | codeObject
  /-- A code object reader over a file. -/
  | reader
  /-- A memory region of an agent. -/
  | region
  /-- A command queue. -/
  | queue
  /-- The completion signal of a dispatch. -/
  | completion
  deriving DecidableEq, Repr

namespace HandleKind

/-- The short mark in front of the number. -/
def mark : HandleKind → String
  | .agent => "agent"
  | .executable => "exe"
  | .codeObject => "co"
  | .reader => "reader"
  | .region => "region"
  | .queue => "queue"
  | .completion => "signal"

/-- What it stands for, in a word or two. -/
def name : HandleKind → String
  | .agent => "agent"
  | .executable => "executable"
  | .codeObject => "code_object"
  | .reader => "reader"
  | .region => "region"
  | .queue => "queue"
  | .completion => "completion"

/-- The kind of a given name. -/
def ofName? (s : String) : Option HandleKind :=
  [agent, executable, codeObject, reader, region, queue, completion].find? (·.name == s)

def typeName : HandleKind → String
  | .agent => "AgentHandle"
  | .executable => "ExecutableHandle"
  | .codeObject => "CodeObjectHandle"
  | .reader => "ReaderHandle"
  | .region => "RegionHandle"
  | .queue => "QueueHandle"
  | .completion => "CompletionHandle"

end HandleKind

/-- A number handed out for a thing of the given kind. -/
structure Handle (kind : HandleKind) where
  id : Nat
  deriving DecidableEq, Repr

namespace Handle

variable {kind : HandleKind}

/-- The handle as messages show it. -/
def label (h : Handle kind) : String := kind.mark ++ Text.hex h.id

/-- The handle inside a record's description. -/
def describe (h : Handle kind) : String := s!"{kind.typeName}({h.id})"

end Handle

abbrev AgentHandle := Handle .agent
abbrev ExecutableHandle := Handle .executable
abbrev CodeObjectHandle := Handle .codeObject
abbrev ReaderHandle := Handle .reader
abbrev RegionHandle := Handle .region
abbrev QueueHandle := Handle .queue
abbrev CompletionHandle := Handle .completion

/-- An optional part of a record's description. -/
def describeOption : Option String → String
  | none => "None"
  | some s => s!"Some({s})"

end DeviceCode
