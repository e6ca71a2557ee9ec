import DeviceCode.Error
import DeviceCode.Handle
import DeviceCode.Host.FileSystem
import DeviceCode.Kernel.Packet

/-!
# The accelerator interface

The loader never touches a device. Every step that does goes through an `Accelerator σ`: a record of
calls that take the accelerator's state `σ` and answer with a result and the state they leave, also
when they fail. `Accelerator.relay` puts another accelerator behind a facade that can refuse calls
and never takes completions back.
-/

namespace DeviceCode

/-- What a symbol of an executable is. -/
inductive SymbolClass where
  | kernel
  | variable
  deriving DecidableEq, Repr

/-- A symbol of a frozen executable. The address is the code descriptor's for a kernel and the
variable's own for a variable. -/
structure ExecutableSymbol where
  name : String
  kind : SymbolClass
  address : UInt64
  /-- Size of a variable in bytes; zero for kernels. -/
  size : UInt64 := 0
  argumentSize : UInt32 := 0
  groupSize : UInt32 := 0
  privateSize : UInt32 := 0
  deriving DecidableEq, Repr

def ExecutableSymbol.isKernel (s : ExecutableSymbol) : Bool := s.kind == .kernel

/-- A call's result and the state it leaves. -/
abbrev Reply (σ α : Type) := Except CallError α × σ

/-- The calls that loading and launching need. -/
structure Accelerator (σ : Type) where
  /-- The name in the log. -/
  name : String
  /-- A new executable, empty and not frozen. -/
  createExecutable : σ → Reply σ ExecutableHandle
  loadReader : ExecutableHandle → AgentHandle → ReaderHandle → σ → Reply σ Unit
  loadCodeObject : ExecutableHandle → AgentHandle → CodeObjectHandle → σ → Reply σ Unit
  /-- Make an executable immutable and ready for dispatch. -/
  freeze : ExecutableHandle → σ → Reply σ Unit
  destroyExecutable : ExecutableHandle → σ → Reply σ Unit
  getSymbol : ExecutableHandle → AgentHandle → String → σ → Reply σ (Option ExecutableSymbol)
  /-- Bind a variable that loaded code leaves undefined, before the code is loaded. -/
  defineGlobal : ExecutableHandle → String → UInt64 → σ → Reply σ Unit
  /-- Open a code object reader over a file. -/
  createReader : Host.FileSystem → String → σ → Reply σ ReaderHandle
  destroyReader : ReaderHandle → σ → Reply σ Unit
  /-- Read a code object from memory, at an address and of a size. -/
  deserialize : Nat → Nat → σ → Reply σ CodeObjectHandle
  destroyCodeObject : CodeObjectHandle → σ → Reply σ Unit
  /-- Pin host memory and answer the address under which the agent sees it. -/
  lockMemory : AgentHandle → UInt64 → Nat → σ → Reply σ UInt64
  unlockMemory : UInt64 → σ → Reply σ Unit
  /-- The agent's global fine-grained region, if it has one. -/
  findRegion : AgentHandle → σ → Reply σ (Option RegionHandle)
  allocate : RegionHandle → Nat → σ → Reply σ Nat
  free : Nat → σ → Reply σ Unit
  writeMemory : Nat → Bytes → σ → Reply σ Unit
  /-- Submit a packet with its argument bytes; the answer is a completion if one is wanted. -/
  dispatch : AgentHandle → QueueHandle → Packet → Bytes → Bool → σ →
    Reply σ (Option CompletionHandle)
  /-- Wait until all work of an agent is done. -/
  synchronize : AgentHandle → σ → Reply σ Unit
  /-- The caller no longer holds a completion. -/
  releaseCompletion : CompletionHandle → σ → Reply σ Unit

/-- The state of a relayed accelerator. -/
structure Relayed (σ : Type) where
  inner : σ
  /-- Names of the calls that are refused. -/
  refused : List String := []
  deriving DecidableEq, Repr

namespace Relayed

variable {σ α : Type}

/-- Pass a call on, unless it is refused. -/
def pass (method : String) (call : σ → Reply σ α) (s : Relayed σ) : Reply (Relayed σ) α :=
  if method ∈ s.refused then (.error ⟨method, 0x1000, "minimal fault"⟩, s)
  else
    let (r, inner) := call s.inner
    (r, { s with inner })

end Relayed

namespace Accelerator

variable {σ : Type}

/-- Another accelerator behind a facade: calls are passed on unless they are refused, and
completions are never taken back. -/
def relay (a : Accelerator σ) : Accelerator (Relayed σ) where
  name := "minimal"
  createExecutable := Relayed.pass "create_executable" a.createExecutable
  loadReader e g r := Relayed.pass "load_reader" (a.loadReader e g r)
  loadCodeObject e g c := Relayed.pass "load_code_object" (a.loadCodeObject e g c)
  freeze e := Relayed.pass "freeze" (a.freeze e)
  destroyExecutable e := Relayed.pass "destroy_executable" (a.destroyExecutable e)
  getSymbol e g n := Relayed.pass "get_symbol" (a.getSymbol e g n)
  defineGlobal e n x := Relayed.pass "define_global" (a.defineGlobal e n x)
  createReader fs p := Relayed.pass "create_reader_from_file" (a.createReader fs p)
  destroyReader r := Relayed.pass "destroy_reader" (a.destroyReader r)
  deserialize x n := Relayed.pass "deserialize_code_object" (a.deserialize x n)
  destroyCodeObject c := Relayed.pass "destroy_code_object" (a.destroyCodeObject c)
  lockMemory g x n := Relayed.pass "lock_memory" (a.lockMemory g x n)
  unlockMemory x := Relayed.pass "unlock_memory" (a.unlockMemory x)
  findRegion g := Relayed.pass "find_fine_grained_region" (a.findRegion g)
  allocate r n := Relayed.pass "allocate" (a.allocate r n)
  free x := Relayed.pass "free" (a.free x)
  writeMemory x bs := Relayed.pass "write_memory" (a.writeMemory x bs)
  dispatch g q p bs w := Relayed.pass "dispatch" (a.dispatch g q p bs w)
  synchronize g := Relayed.pass "synchronize" (a.synchronize g)
  releaseCompletion _ s := (.ok (), s)

end Accelerator

end DeviceCode
