import DeviceCode.Loader.World

/-!
# Holding and releasing completions

Leases and events as a program uses them. A completion goes back to the accelerator as soon as its
last holder leaves; if the accelerator refuses it, that is only logged.
-/

namespace DeviceCode

variable {σ : Type}

/-- A completion was not taken back. -/
def Trace.Event.completionKept (c : CompletionHandle) (e : CallError) : Trace.Event where
  level := .warn
  message := "failed to release completion signal"
  fields := [("handle", c.label), ("error", e.message)]

namespace World

/-- A new lease with one holder. -/
def grantLease (completion : CompletionHandle) (managed : Bool) : Action σ LeaseId := do
  let (id, completions) := (← get).completions.grant completion managed
  modify fun w => { w with completions }
  return id

/-- One more holder of a lease. -/
def shareLease (id : LeaseId) : Action σ Unit :=
  modify fun w => { w with completions := w.completions.share id }

end World

namespace Loader

variable (l : Loader σ)

/-- Give a completion back. -/
def releaseCompletion (c : CompletionHandle) : Action σ Unit := do
  let _ ← World.discard (l.accelerator.releaseCompletion c) (.completionKept c)

/-- A holder leaves a lease. -/
def leaveLease (id : LeaseId) : Action σ Unit := do
  let (released, completions) := (← get).completions.leave id
  modify fun w => { w with completions }
  match released with
  | none => return
  | some c => l.releaseCompletion c

/-- A holder leaves a lease, if there is one. -/
def leaveLease? (id : Option LeaseId) : Action σ Unit :=
  match id with
  | none => return
  | some id => l.leaveLease id

/-- Attach an event to a lease; what it held before is left after that. -/
def attach (event : String) (id : LeaseId) (record : EventRecord) : Action σ Unit := do
  World.report (.attached record)
  let (previous, completions) := (← get).completions.attach event id record
  modify fun w => { w with completions }
  l.leaveLease? previous

/-- Detach an event from what it holds, if it holds anything. -/
def detach (event : String) : Action σ Unit := do
  let (previous, completions) := (← get).completions.detach event
  modify fun w => { w with completions }
  l.leaveLease? previous

end Loader

end DeviceCode
