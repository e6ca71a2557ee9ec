import DeviceCode.Loader.World

/-!
# Binding host globals

Device code may leave globals undefined that the host program defines. Each of them is looked up in
the host image, pinned for the agent, and defined in the executable at the address under which the
agent sees it. If one of them fails, everything that was pinned for this executable is unpinned.
-/

namespace DeviceCode

variable {σ : Type}

namespace Trace.Event

/-- All undefined globals of an executable were bound. -/
def globalsBound (e : ExecutableHandle) (bound : Nat) : Trace.Event where
  level := .debug
  message := "host_globals_bound"
  fields := [("executable", e.label), count "bound" bound]

/-- A warning about something that was not released. -/
def releaseFailed (message what label : String) (e : CallError) : Trace.Event where
  level := .warn
  message := message
  fields := [(what, label), ("error", e.message)]

end Trace.Event

namespace Loader

variable (l : Loader σ)

/-- Pin the host definition of a name. Even an empty one is pinned with a byte. -/
def pinGlobal (host : Host.Image) (agent : AgentHandle) (name : String) :
    Attempt σ PinnedGlobal := do
  match host.lookup? name with
  | none => throw (.unresolvedSymbol name)
  | some s => do
    let deviceAddress ←
      Attempt.call .loadFailed (l.accelerator.lockMemory agent s.address (max s.size.toNat 1))
    return { name, hostAddress := s.address, deviceAddress, size := s.size }

/-- Define a pinned global in an executable. -/
def defineGlobal (executable : ExecutableHandle) (pin : PinnedGlobal) : Attempt σ Unit := do
  Attempt.call .loadFailed (l.accelerator.defineGlobal executable pin.name pin.deviceAddress)
  Attempt.report (.symbolBinding pin.name pin.hostAddress.toNat pin.deviceAddress.toNat
    pin.size.toNat)

/-- Unpin globals in the order in which they were pinned. -/
def unpinAll : List PinnedGlobal → Action σ Unit
  | [] => return
  | pin :: pins => do
    let _ ← World.discard (l.accelerator.unlockMemory pin.hostAddress)
      (.releaseFailed "failed to unpin host global during rollback" "symbol" pin.name)
    unpinAll pins

/-- Bind names one after the other until one fails. The answer is what is pinned by then, these pins
first, and why it stopped. -/
def bindUntilFailure (host : Host.Image) (agent : AgentHandle) (executable : ExecutableHandle)
    (pins : List PinnedGlobal) : List String → Action σ (List PinnedGlobal × Option LoadError)
  | [] => return (pins, none)
  | name :: names => do
    match ← (l.pinGlobal host agent name).run with
    | .error e => return (pins, some e)
    | .ok pin => do
      match ← (l.defineGlobal executable pin).run with
      | .error e => return (pins ++ [pin], some e)
      | .ok _ => bindUntilFailure host agent executable (pins ++ [pin]) names

/-- Bind all names, or none of them. -/
def bindGlobals (host : Host.Image) (agent : AgentHandle) (executable : ExecutableHandle)
    (names : List String) : Attempt σ (List PinnedGlobal) := do
  match ← l.bindUntilFailure host agent executable [] names with
  | (pins, none) => do
    Attempt.report (.globalsBound executable pins.length)
    return pins
  | (pins, some e) => do
    l.unpinAll pins
    throw e

end Loader

end DeviceCode
