import DeviceCode.Accelerator
import DeviceCode.Host.Image
import DeviceCode.Kernel.LayoutCache
import DeviceCode.Launch.Completion
import DeviceCode.Launch.Hooks
import DeviceCode.Loader.Residency

/-!
# The world of a loader

A loader is an accelerator, settings and launch hooks. What changes while it works is a `World`: the
accelerator's state, the host's files, the loader's own state, the completions, and three histories
that only grow: the log, the calls of hooks, and inside the accelerator whatever that keeps.

An `Action` always ends with an answer. An `Attempt` may end with a `LoadError`; what it changed
until then stays.
-/

namespace DeviceCode

/-- What a loader remembers. -/
structure LoaderState where
  /-- The host image, once it was needed. -/
  hostImage : Option Host.Image := none
  layouts : LayoutCache := {}
  residency : Residency := {}
  nextModule : ModuleId := 1
  deriving DecidableEq, Repr

/-- Everything that loading and launching can change. -/
structure World (σ : Type) where
  accelerator : σ
  host : Host.System
  loader : LoaderState := {}
  completions : Completions := {}
  log : List Trace.Event := []
  hookCalls : List HookCall := []
  deriving DecidableEq, Repr

/-- A loader of device code. -/
structure Loader (σ : Type) where
  accelerator : Accelerator σ
  settings : LoaderSettings := {}
  hooks : LaunchHooks := .default

/-- A computation on the world. -/
abbrev Action (σ α : Type) := StateM (World σ) α

/-- A computation on the world that may fail. -/
abbrev Attempt (σ α : Type) := ExceptT LoadError (StateM (World σ)) α

variable {σ α : Type}

namespace World

/-- Call the accelerator. -/
def call (f : σ → Reply σ α) : Action σ (Except CallError α) := fun w =>
  let (result, accelerator) := f w.accelerator
  (result, { w with accelerator })

/-- Add an event to the log. -/
def report (e : Trace.Event) : Action σ Unit := modify fun w => { w with log := w.log ++ [e] }

/-- Remember a call of a hook. -/
def recordHook (c : HookCall) : Action σ Unit :=
  modify fun w => { w with hookCalls := w.hookCalls ++ [c] }

/-- Change the loader's state. -/
def updateLoader (f : LoaderState → LoaderState) : Action σ Unit :=
  modify fun w => { w with loader := f w.loader }

/-- Release something. A failure is only logged; the answer is the failure, if any. -/
def discard (f : σ → Reply σ Unit) (warning : CallError → Trace.Event) :
    Action σ (Option CallError) := do
  match ← call f with
  | .ok _ => return none
  | .error e => do
    report (warning e)
    return some e

end World

namespace Attempt

/-- An action as an attempt that does not fail. -/
def perform (x : Action σ α) : Attempt σ α := ExceptT.lift x

/-- Add an event to the log. -/
def report (e : Trace.Event) : Attempt σ Unit := perform (World.report e)

/-- Call the accelerator; a failure is put down to what `cause` says. -/
def call (cause : CallError → LoadError) (f : σ → Reply σ α) : Attempt σ α := do
  match ← World.call f with
  | .ok a => return a
  | .error e => throw (cause e)

/-- The answer of a check that changes nothing. -/
def ofExcept (r : Except LoadError α) : Attempt σ α := ExceptT.mk (pure r)

/-- A value that must be acceptable. -/
def valid (r : Except InvalidValue α) : Attempt σ α := ofExcept (r.mapError .invalidValue)

/-- An object file that must be well formed. -/
def wellFormed (r : Except Elf.Error α) : Attempt σ α := ofExcept (r.mapError .malformedObject)

/-- The device that is current for the caller. -/
def device (current : Option Device) : Attempt σ Device :=
  ofExcept (match current with
    | some d => .ok d
    | none => .error .noCurrentDevice)

end Attempt

end DeviceCode
