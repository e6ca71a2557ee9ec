import DeviceCode.Loader.World

/-!
# Unloading modules

An unload waits for the module's agent, then releases the executable, the code object and the device
image in this order, so that nothing goes while something that may refer to it is still there. The
first failure stops it. The module remembers what was released, and a later unload goes on from
there.
-/

namespace DeviceCode

variable {σ α : Type}

/-- An unload that stopped: the module as it is now, and why. -/
structure UnloadError where
  module : LoadedModule
  cause : LoadError
  deriving DecidableEq, Repr

def UnloadError.message (e : UnloadError) : String :=
  s!"{e.module.label} could not be unloaded: {e.cause.message}"

namespace Trace.Event

def moduleUnloaded (id : ModuleId) (functions : Nat) : Trace.Event where
  level := .info
  message := "module_unloaded"
  fields := [("module", moduleLabel id), count "functions" functions]

def unloadStopped (id : ModuleId) (e : CallError) : Trace.Event where
  level := .warn
  message := "module unload stopped"
  fields := [("module", moduleLabel id), ("error", e.message)]

end Trace.Event

/-- An unload in progress. -/
structure UnloadProgress (σ : Type) where
  module : LoadedModule
  world : World σ

/-- A step of an unload. -/
abbrev UnloadStep (σ α : Type) := ExceptT CallError (StateM (UnloadProgress σ)) α

namespace UnloadStep

def call (f : σ → Reply σ α) : UnloadStep σ α := fun p =>
  let (result, world) := World.call f p.world
  (result, { p with world })

/-- Change the module. -/
def update (f : LoadedModule → LoadedModule) : UnloadStep σ Unit :=
  modify fun p => { p with module := f p.module }

/-- Note that something was released. -/
def note (f : Released → Released) : UnloadStep σ Unit :=
  update fun m => { m with released := f m.released }

end UnloadStep

namespace Loader

variable (l : Loader σ)

/-- Destroy a module's executable, unless that was done before. -/
def releaseExecutable : UnloadStep σ Unit := do
  let m := (← get).module
  if m.released.executable then return
  else do
    UnloadStep.call (l.accelerator.destroyExecutable m.executable)
    UnloadStep.note ({ · with executable := true })

/-- Destroy a module's code object, unless that was done before. -/
def releaseCodeObject (d : DeviceImage) : UnloadStep σ Unit := do
  if (← get).module.released.codeObject then return
  else do
    UnloadStep.call (l.accelerator.destroyCodeObject d.codeObject)
    UnloadStep.note ({ · with codeObject := true })

/-- Free a module's device image, unless that was done before. -/
def releaseDeviceImage (d : DeviceImage) : UnloadStep σ Unit := do
  if (← get).module.released.deviceImage then return
  else do
    UnloadStep.call (l.accelerator.free d.address)
    UnloadStep.note ({ · with deviceImage := true })

/-- Forget a module's functions; the answer is how many there were. -/
def forgetFunctions : UnloadStep σ Nat := do
  let count := (← get).module.functions.length
  UnloadStep.update ({ · with functions := [] })
  return count

/-- Release whatever a module still holds. -/
def releaseSteps : UnloadStep σ Nat := do
  let m := (← get).module
  UnloadStep.call (l.accelerator.synchronize m.agent)
  l.releaseExecutable
  let functions ← forgetFunctions
  match m.deviceImage with
  | none => return functions
  | some d => do
    l.releaseCodeObject d
    l.releaseDeviceImage d
    return functions

/-- Unload a module. When it fails the module comes back inside the error. -/
def unload (m : LoadedModule) : Action σ (Except UnloadError Unit) := fun w =>
  match l.releaseSteps { module := m, world := w } with
  | (.ok functions, p) => (do
      World.updateLoader fun s => { s with residency := s.residency.release m.id }
      World.report (.moduleUnloaded m.id functions)
      return .ok () : Action σ (Except UnloadError Unit)) p.world
  | (.error e, p) => (do
      World.report (.unloadStopped m.id e)
      return .error { module := p.module, cause := .callFailed e } :
      Action σ (Except UnloadError Unit)) p.world

end Loader

end DeviceCode
