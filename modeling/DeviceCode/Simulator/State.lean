import DeviceCode.Accelerator
import DeviceCode.Assoc

/-!
# An accelerator held in memory

The simulator answers every call without a device. It keeps executables, code objects, readers,
pinned host ranges, allocations and completions, and it records submitted dispatches instead of
running them. The journal lists the calls in order; a call that hands out a handle or an address is
listed only when it succeeds, every other call also when it fails. Any kind of call can be made to
fail.

Handles of all kinds come from one counter, so no two are alike, and neither handles nor addresses
are ever handed out twice.
-/

namespace DeviceCode

/-- The calls that can be made to fail. -/
inductive FaultPoint where
  | createExecutable
  | createReader
  | loadReader
  | deserialize
  | loadCodeObject
  | freeze
  | destroyExecutable
  | getSymbol
  | lockMemory
  | defineGlobal
  | findRegion
  | allocate
  | free
  | writeMemory
  | dispatch
  | synchronize
  deriving DecidableEq, Repr

namespace FaultPoint

def all : List FaultPoint :=
  [.createExecutable, .createReader, .loadReader, .deserialize, .loadCodeObject, .freeze,
   .destroyExecutable, .getSymbol, .lockMemory, .defineGlobal, .findRegion, .allocate, .free,
   .writeMemory, .dispatch, .synchronize]

def name : FaultPoint → String
  | .createExecutable => "CreateExecutable"
  | .createReader => "CreateReader"
  | .loadReader => "LoadReader"
  | .deserialize => "DeserializeCodeObject"
  | .loadCodeObject => "LoadCodeObject"
  | .freeze => "Freeze"
  | .destroyExecutable => "DestroyExecutable"
  | .getSymbol => "GetSymbol"
  | .lockMemory => "LockMemory"
  | .defineGlobal => "DefineGlobal"
  | .findRegion => "FindRegion"
  | .allocate => "Allocate"
  | .free => "Free"
  | .writeMemory => "WriteMemory"
  | .dispatch => "Dispatch"
  | .synchronize => "Synchronize"

def ofName? (s : String) : Option FaultPoint := all.find? (·.name == s)

end FaultPoint

/-- One entry of the journal. -/
inductive JournalEntry where
  | createExecutable (executable : ExecutableHandle)
  | loadReader (executable : ExecutableHandle) (reader : ReaderHandle)
  | loadCodeObject (executable : ExecutableHandle) (codeObject : CodeObjectHandle)
  | freeze (executable : ExecutableHandle)
  | destroyExecutable (executable : ExecutableHandle)
  | getSymbol (executable : ExecutableHandle) (name : String)
  | defineGlobal (executable : ExecutableHandle) (name : String)
  | createReader (reader : ReaderHandle)
  | destroyReader (reader : ReaderHandle)
  | deserialize (codeObject : CodeObjectHandle)
  | destroyCodeObject (codeObject : CodeObjectHandle)
  | lockMemory (address : UInt64)
  | unlockMemory (address : UInt64)
  | allocate (address : Nat)
  | free (address : Nat)
  | writeMemory (address : Nat)
  | dispatch (queue : QueueHandle)
  | synchronize (agent : AgentHandle)
  | releaseCompletion (completion : CompletionHandle)
  deriving DecidableEq, Repr

namespace JournalEntry

/-- The operation that was called. -/
def operation : JournalEntry → String
  | .createExecutable _ => "CreateExecutable"
  | .loadReader _ _ => "LoadReader"
  | .loadCodeObject _ _ => "LoadCodeObject"
  | .freeze _ => "Freeze"
  | .destroyExecutable _ => "DestroyExecutable"
  | .getSymbol _ _ => "GetSymbol"
  | .defineGlobal _ _ => "DefineGlobal"
  | .createReader _ => "CreateReader"
  | .destroyReader _ => "DestroyReader"
  | .deserialize _ => "DeserializeCodeObject"
  | .destroyCodeObject _ => "DestroyCodeObject"
  | .lockMemory _ => "LockMemory"
  | .unlockMemory _ => "UnlockMemory"
  | .allocate _ => "Allocate"
  | .free _ => "Free"
  | .writeMemory _ => "WriteMemory"
  | .dispatch _ => "Dispatch"
  | .synchronize _ => "Synchronize"
  | .releaseCompletion _ => "ReleaseCompletion"

/-- The handles and addresses that it was about. -/
def subjects : JournalEntry → List Nat
  | .loadReader e r => [e.id, r.id]
  | .loadCodeObject e c => [e.id, c.id]
  | .createExecutable e | .freeze e | .destroyExecutable e | .getSymbol e _
  | .defineGlobal e _ => [e.id]
  | .createReader r | .destroyReader r => [r.id]
  | .deserialize c | .destroyCodeObject c => [c.id]
  | .lockMemory address | .unlockMemory address => [address.toNat]
  | .allocate address | .free address | .writeMemory address => [address]
  | .dispatch queue => [queue.id]
  | .synchronize agent => [agent.id]
  | .releaseCompletion completion => [completion.id]

/-- The name of the symbol that it was about, if any. -/
def symbol? : JournalEntry → Option String
  | .getSymbol _ name | .defineGlobal _ name => some name
  | _ => none

end JournalEntry

/-- A dispatch as it was submitted, with argument address and completion signal filled in. -/
structure SubmittedDispatch where
  agent : AgentHandle
  queue : QueueHandle
  packet : Packet
  arguments : Bytes
  deriving DecidableEq, Repr

/-- An executable in the simulator. -/
structure Executable where
  frozen : Bool := false
  globals : Assoc String UInt64 := {}
  symbols : Assoc String ExecutableSymbol := {}
  deriving DecidableEq, Repr

/-- A pinned host range. -/
structure Pin where
  /-- The largest size that was pinned. -/
  size : Nat
  /-- How often the range is pinned. -/
  holders : Nat
  deriving DecidableEq, Repr

/-- The state of the simulator. -/
structure Simulator where
  /-- The last handle handed out. -/
  lastHandle : Nat := 0
  /-- How often code was loaded; each time gets an address range of its own. -/
  loads : Nat := 0
  /-- Pages handed out so far, with one page between allocations. -/
  pages : Nat := 0
  executables : Assoc ExecutableHandle Executable := {}
  codeObjects : Assoc CodeObjectHandle Bytes := {}
  readers : Assoc ReaderHandle Bytes := {}
  allocations : Assoc Nat Bytes := {}
  pinned : Assoc UInt64 Pin := {}
  dispatches : List SubmittedDispatch := []
  /-- Completions that were handed out and not yet released. -/
  completions : List CompletionHandle := []
  journal : List JournalEntry := []
  faults : List FaultPoint := []
  /-- Group and private sizes reported for kernels of a name. -/
  segmentSizes : Assoc String (UInt32 × UInt32) := {}
  /-- Argument segment sizes reported for kernels of a name. -/
  argumentSizes : Assoc String UInt32 := {}
  hasRegion : Bool := true
  deriving DecidableEq, Repr

namespace Simulator

/-! ## Statuses -/

def statusError : Nat := 0x1000
def statusInvalidArgument : Nat := 0x1001
def statusOutOfResources : Nat := 0x1008
def statusInvalidCodeObject : Nat := 0x1010
def statusInvalidExecutable : Nat := 0x1011
def statusFrozenExecutable : Nat := 0x1012
def statusVariableUndefined : Nat := 0x1015

variable (s : Simulator)

/-- Add an entry to the journal. -/
def record (e : JournalEntry) : Simulator := { s with journal := s.journal ++ [e] }

/-- A call that fails and changes nothing more. -/
def fail {α : Type} (operation : String) (status : Nat) (reason : String) : Reply Simulator α :=
  (.error ⟨operation, status, reason⟩, s)

/-- A call that was made to fail. -/
def failInjected {α : Type} (operation : String) : Reply Simulator α :=
  s.fail operation statusError "injected fault"

/-- A call about an executable that does not exist. -/
def failUnknown {α : Type} (operation : String) (e : ExecutableHandle) : Reply Simulator α :=
  s.fail operation statusInvalidExecutable s!"unknown executable {e.label}"

/-- Whether a kind of call is made to fail. -/
def faulty (point : FaultPoint) : Bool := s.faults.contains point

/-- Make a kind of call fail until the faults are cleared. -/
def inject (point : FaultPoint) : Simulator :=
  if s.faulty point then s else { s with faults := s.faults ++ [point] }

def clearFaults : Simulator := { s with faults := [] }

/-- Sizes to report for kernels of a name, in code that is loaded from now on. -/
def setSegmentSizes (kernel : String) (group private_ : UInt32) : Simulator :=
  { s with segmentSizes := s.segmentSizes.put kernel (group, private_) }

/-- Argument segment size to report for kernels of a name, in code that is loaded from now on. -/
def setArgumentSize (kernel : String) (size : UInt32) : Simulator :=
  { s with argumentSizes := s.argumentSizes.put kernel size }

/-- The handle that is handed out next. -/
def nextHandle : Nat := s.lastHandle + 1

/-- Executables, code objects, readers, allocations, pinned ranges and completions. -/
def counts : List Nat :=
  [s.executables.size, s.codeObjects.size, s.readers.size, s.allocations.size, s.pinned.size,
   s.completions.length]

def isFrozen (e : ExecutableHandle) : Bool := (s.executables.get? e).any (·.frozen)

/-- The address that a global of an executable is bound to. -/
def definedGlobal? (e : ExecutableHandle) (name : String) : Option UInt64 :=
  (s.executables.get? e).bind (·.globals.get? name)

end Simulator

end DeviceCode
