import DeviceCode.Elf.Object
import DeviceCode.Simulator.State

/-!
# Memory, code objects and readers in the simulator

Allocations start at page boundaries and are one page or more apart, so a range of addresses, even
an empty one, touches at most one of them. Memory never runs out, and a size above `maxCapacity`,
which no image has, is allocated like any other. Pinned host ranges are counted: each is released
when it has been unpinned as often as it was pinned.
-/

namespace DeviceCode.Simulator

def pageSize : Nat := 0x1000

def allocationBase : Nat := 0x7f0000000000

/-- The one region that memory comes from. -/
def fineGrainedRegion : RegionHandle := ⟨1⟩

variable (s : Simulator)

/-- The allocation that holds `[address, address + size)`: its start and its bytes. -/
def allocationAt? (address size : Nat) : Option (Nat × Bytes) :=
  s.allocations.entries.find? fun (base, bytes) =>
    decide (base ≤ address) && decide (address - base + size ≤ bytes.length)

def findRegion (_ : AgentHandle) : Reply Simulator (Option RegionHandle) :=
  if s.faulty .findRegion then s.failInjected "agent_iterate_regions"
  else (.ok (if s.hasRegion then some fineGrainedRegion else none), s)

def allocate (region : RegionHandle) (size : Nat) : Reply Simulator Nat :=
  if s.faulty .allocate then s.failInjected "memory_allocate"
  else if region ≠ fineGrainedRegion ∨ size = 0 then
    s.fail "memory_allocate" statusOutOfResources
      s!"cannot allocate {size} bytes from {region.label}"
  else
    let address := allocationBase + s.pages * pageSize
    (.ok address, { s with
      pages := s.pages + (size + pageSize - 1) / pageSize + 1
      allocations := s.allocations.put address (Bytes.zeros size) }.record (.allocate address))

def free (address : Nat) : Reply Simulator Unit :=
  let s := s.record (.free address)
  if s.faulty .free then s.failInjected "memory_free"
  else if s.allocations.contains address then
    (.ok (), { s with allocations := s.allocations.erase address })
  else s.fail "memory_free" statusInvalidArgument s!"{Text.hex address} is not allocated"

def writeMemory (address : Nat) (bytes : Bytes) : Reply Simulator Unit :=
  let s := s.record (.writeMemory address)
  if s.faulty .writeMemory then s.failInjected "memory_copy"
  else
    match s.allocationAt? address bytes.length with
    | none =>
      s.fail "memory_copy" statusInvalidArgument
        s!"{bytes.length} bytes at {Text.hex address} are not allocated"
    | some (base, old) =>
      (.ok (), { s with
        allocations := s.allocations.put base (Bytes.overwrite old (address - base) bytes) })

def deserialize (address size : Nat) : Reply Simulator CodeObjectHandle :=
  if s.faulty .deserialize then s.failInjected "code_object_deserialize"
  else
    match s.allocationAt? address size with
    | none =>
      s.fail "code_object_deserialize" statusInvalidArgument
        s!"{size} bytes at {Text.hex address} are not allocated"
    | some (base, bytes) =>
      let image := Bytes.slice bytes (address - base) size
      match Elf.Object.parse image with
      | .error err => s.fail "code_object_deserialize" statusInvalidCodeObject err.message
      | .ok _ =>
        let c : CodeObjectHandle := ⟨s.nextHandle⟩
        (.ok c, { s with
          lastHandle := s.nextHandle
          codeObjects := s.codeObjects.put c image }.record (.deserialize c))

def destroyCodeObject (c : CodeObjectHandle) : Reply Simulator Unit :=
  let s := s.record (.destroyCodeObject c)
  if s.codeObjects.contains c then (.ok (), { s with codeObjects := s.codeObjects.erase c })
  else s.fail "code_object_destroy" statusInvalidCodeObject s!"unknown code object {c.label}"

def createReader (fs : Host.FileSystem) (path : String) : Reply Simulator ReaderHandle :=
  if s.faulty .createReader then s.failInjected "code_object_reader_create_from_file"
  else
    match fs.read path with
    | .error fault =>
      s.fail "code_object_reader_create_from_file" statusInvalidArgument s!"{path}: {fault.message}"
    | .ok bytes =>
      let r : ReaderHandle := ⟨s.nextHandle⟩
      (.ok r, { s with
        lastHandle := s.nextHandle
        readers := s.readers.put r bytes }.record (.createReader r))

def destroyReader (r : ReaderHandle) : Reply Simulator Unit :=
  let s := s.record (.destroyReader r)
  if s.readers.contains r then (.ok (), { s with readers := s.readers.erase r })
  else s.fail "code_object_reader_destroy" statusInvalidArgument s!"unknown reader {r.label}"

/-- The agent sees host memory under its own address. -/
def lockMemory (_ : AgentHandle) (address : UInt64) (size : Nat) : Reply Simulator UInt64 :=
  let s := s.record (.lockMemory address)
  if s.faulty .lockMemory then s.failInjected "amd_memory_lock"
  else if address = 0 ∨ size = 0 then
    s.fail "amd_memory_lock" statusInvalidArgument "null or empty host range"
  else
    let pin := (s.pinned.get? address).getD ⟨0, 0⟩
    (.ok address, { s with
      pinned := s.pinned.put address ⟨max pin.size size, pin.holders + 1⟩ })

def unlockMemory (address : UInt64) : Reply Simulator Unit :=
  let s := s.record (.unlockMemory address)
  match s.pinned.get? address with
  | none =>
    s.fail "amd_memory_unlock" statusInvalidArgument s!"{Text.hex address.toNat} is not pinned"
  | some pin =>
    (.ok (), { s with
      pinned := if pin.holders ≤ 1 then s.pinned.erase address
        else s.pinned.put address { pin with holders := pin.holders - 1 } })

end DeviceCode.Simulator
