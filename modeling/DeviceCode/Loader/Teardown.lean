import DeviceCode.Loader.Binding

/-!
# Starting and ending a loader

A teardown unpins the host globals and destroys the readers of all modules that are no longer live.
Every entry is tried once; it is gone afterwards whether that worked or not. A loader that ends
tears down what is left, if anything is.
-/

namespace DeviceCode

variable {σ : Type}

namespace Trace.Event

def loaderCreated (accelerator : String) (mode : FlushMode) : Trace.Event where
  level := .debug
  message := "module_loader_created"
  fields := [("runtime", accelerator), ("flush_mode", mode.name)]

def keptInUse (inUse live : Nat) : Trace.Event where
  level := .warn
  message := "residency teardown kept resources of loaded modules"
  fields := [count "in_use" inUse, count "live_modules" live]

def tornDown (r : TeardownReport) : Trace.Event where
  level := .info
  message := "residency_teardown"
  fields := [count "unpinned" r.unpinned, count "readers_destroyed" r.readersDestroyed,
    count "in_use" r.inUse, count "failures" r.failures.length]

def endedWithFailures (failures : Nat) : Trace.Event where
  level := .warn
  message := "residency teardown reported failures"
  fields := [count "failures" failures]

end Trace.Event

namespace Loader

variable (l : Loader σ)

/-- Log that a loader is there. -/
def start : Action σ Unit :=
  World.report (.loaderCreated l.accelerator.name l.settings.flushMode)

/-- Unpin host globals; the answer adds to a report. -/
def unpinReleased (report : TeardownReport) : List PinnedGlobal → Action σ TeardownReport
  | [] => return report
  | pin :: pins => do
    match ← World.discard (l.accelerator.unlockMemory pin.hostAddress)
        (.releaseFailed "failed to unpin host global" "symbol" pin.name) with
    | none => unpinReleased { report with unpinned := report.unpinned + 1 } pins
    | some e => unpinReleased { report with failures := report.failures ++ [e] } pins

/-- Destroy readers; the answer adds to a report. -/
def destroyReleased (report : TeardownReport) : List ReaderHandle → Action σ TeardownReport
  | [] => return report
  | r :: rs => do
    match ← World.discard (l.accelerator.destroyReader r)
        (.releaseFailed "failed to destroy code object reader" "reader" r.label) with
    | none => destroyReleased { report with readersDestroyed := report.readersDestroyed + 1 } rs
    | some e => destroyReleased { report with failures := report.failures ++ [e] } rs

/-- Release what modules that are no longer live have left behind, pins first. -/
def shutdown : Action σ TeardownReport := do
  let residency := (← get).loader.residency
  let kept := residency.keepLive
  let inUse := kept.size
  World.updateLoader fun s => { s with residency := kept }
  let report ← l.unpinReleased { inUse } residency.releasablePins
  let report ← l.destroyReleased report residency.releasableReaders
  if 0 < inUse then World.report (.keptInUse inUse kept.live.length) else pure ()
  World.updateLoader fun s =>
    { s with residency := { s.residency with tornDown := inUse == 0 } }
  World.report (.tornDown report)
  return report

/-- End the loader. -/
def close : Action σ Unit := do
  if (← get).loader.residency.size = 0 then return
  else do
    let report ← l.shutdown
    if report.isClean then return
    else World.report (.endedWithFailures report.failures.length)

/-- The loader and what it remembers. -/
def describe (s : LoaderState) : String :=
  s!"ModuleLoader \x7b runtime: {Text.quoted l.accelerator.name}, config: {l.settings.describe}, "
    ++ s!"layouts: {s.layouts.size}, pinned: {s.residency.pins.length}, "
    ++ s!"readers: {s.residency.readers.length}, live_modules: {s.residency.live.length} \x7d"

end Loader

end DeviceCode
