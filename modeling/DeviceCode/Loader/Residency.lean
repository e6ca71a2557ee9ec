import DeviceCode.Error
import DeviceCode.Handle
import DeviceCode.Loader.Module

/-!
# What outlives a load

Pinned host globals and the readers of code object files must stay for as long as an executable may
reach them. They are kept on behalf of the module that they were acquired for, and can go when that
module is no longer live.
-/

namespace DeviceCode

/-- A host global that is pinned and bound into an executable. -/
structure PinnedGlobal where
  name : String
  hostAddress : UInt64
  deviceAddress : UInt64
  size : UInt64
  deriving DecidableEq, Repr

/-- Pins and readers that are kept, each with the module that it is kept for, and the live modules.
-/
structure Residency where
  pins : List (ModuleId × PinnedGlobal) := []
  readers : List (ModuleId × ReaderHandle) := []
  live : List ModuleId := []
  /-- Whether the last teardown left nothing behind and nothing was kept since. -/
  tornDown : Bool := false
  deriving DecidableEq, Repr

/-- What a teardown did. -/
structure TeardownReport where
  unpinned : Nat := 0
  readersDestroyed : Nat := 0
  /-- Entries that stayed because their module is live. -/
  inUse : Nat := 0
  failures : List CallError := []
  deriving DecidableEq, Repr

/-- A teardown is clean when every call that it made succeeded. -/
def TeardownReport.isClean (r : TeardownReport) : Bool := r.failures.isEmpty

namespace Residency

variable (r : Residency)

def isLive (id : ModuleId) : Bool := r.live.contains id

/-- Keep pins and a reader for a module, which is live from now on. -/
def retain (id : ModuleId) (pins : List PinnedGlobal) (reader : Option ReaderHandle) :
    Residency where
  pins := r.pins ++ pins.map fun p => (id, p)
  readers := r.readers ++ reader.toList.map fun h => (id, h)
  live := if r.isLive id then r.live else r.live ++ [id]
  tornDown := false

/-- A module is live no longer. -/
def release (id : ModuleId) : Residency := { r with live := r.live.filter (· != id) }

/-- The pins that may go. -/
def releasablePins : List PinnedGlobal :=
  (r.pins.filter fun e => !r.isLive e.1).map (·.2)

/-- The readers that may go. -/
def releasableReaders : List ReaderHandle :=
  (r.readers.filter fun e => !r.isLive e.1).map (·.2)

/-- Only the entries of live modules. -/
def keepLive : Residency :=
  { r with
    pins := r.pins.filter fun e => r.isLive e.1
    readers := r.readers.filter fun e => r.isLive e.1 }

/-- How many pins and readers are kept. -/
def size : Nat := r.pins.length + r.readers.length

end Residency

end DeviceCode
