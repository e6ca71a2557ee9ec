import DeviceCode.Loader.Binding

/-!
# Loading modules

A module is loaded from a file or from memory:

* a file is read by the accelerator itself, through a reader that must outlive the module;
* an image in memory is copied to device memory up to its extent, and a code object is read from
  there.

Either way an executable is made, the host globals that the code leaves undefined are bound into it,
the code is loaded and the executable is frozen. What a load has acquired is held in `Holdings`
until it is complete, and a load that fails gives all of it back: the executable first, since it may
refer to everything else.
-/

namespace DeviceCode

variable {σ α : Type}

/-- What a load in progress has acquired. -/
structure Holdings where
  executable : Option ExecutableHandle := none
  codeObject : Option CodeObjectHandle := none
  allocation : Option Nat := none
  reader : Option ReaderHandle := none
  pins : List PinnedGlobal := []
  deriving DecidableEq, Repr

/-- A load in progress. -/
structure LoadProgress (σ : Type) where
  held : Holdings := {}
  world : World σ

/-- A step of a load. -/
abbrev LoadStep (σ α : Type) := ExceptT LoadError (StateM (LoadProgress σ)) α

namespace LoadStep

/-- An attempt that acquires nothing, or gives back what it acquired when it fails. -/
def attempt (x : Attempt σ α) : LoadStep σ α := fun p =>
  let (result, world) := x p.world
  (result, { p with world })

/-- Call the accelerator; a failure is put down to what `cause` says. -/
def call (cause : CallError → LoadError) (f : σ → Reply σ α) : LoadStep σ α :=
  attempt (Attempt.call cause f)

/-- Hold something from here on. -/
def hold (f : Holdings → Holdings) : LoadStep σ Unit := modify fun p => { p with held := f p.held }

end LoadStep

namespace Trace.Event

/-- A load begins. -/
def loadStarted (source : String) (bytes : Option Nat) : Trace.Event where
  level := .debug
  message := "performance_span_start"
  fields := [("name", "module_load"), ("source", source)] ++ (bytes.map (count "bytes")).toList

/-- A load is complete. -/
def moduleLoaded (m : LoadedModule) (bound : Nat) : Trace.Event where
  level := .info
  message := "module_loaded"
  fields := [("module", m.label), ("source", m.source.label), ("executable", m.executable.label),
    count "bytes" m.image.length, count "bound_globals" bound]

/-- A load gave back what it had acquired. -/
def loadRolledBack : Trace.Event where
  level := .debug
  message := "partial_load_rolled_back"

/-- Options came with a load. -/
def optionsIgnored (options : List LoadOption) : Trace.Event where
  level := .warn
  message := "load options are not supported and were ignored"
  fields := [count "count" options.length,
    ("options", "[" ++ ", ".intercalate (options.map (·.describe)) ++ "]")]

end Trace.Event

namespace Loader

variable (l : Loader σ)

/-- Give back something that a failed load holds, if it holds it. -/
def giveBack {κ : Type} (held : Option κ) (release : κ → σ → Reply σ Unit)
    (message what : String) (label : κ → String) : Action σ Unit := do
  match held with
  | none => return
  | some x => do
    let _ ← World.discard (release x) (.releaseFailed message what (label x))
    return

/-- Give back everything that a failed load holds. Failures are only logged. -/
def rollBack (held : Holdings) : Action σ Unit := do
  giveBack held.executable l.accelerator.destroyExecutable
    "rollback: failed to destroy executable" "executable" (·.label)
  giveBack held.codeObject l.accelerator.destroyCodeObject
    "rollback: failed to destroy code object" "code_object" (·.label)
  giveBack held.allocation l.accelerator.free
    "rollback: failed to free device image" "address" toString
  giveBack held.reader l.accelerator.destroyReader
    "rollback: failed to destroy reader" "reader" (·.label)
  l.unpinAll held.pins
  if held = {} then return else World.report .loadRolledBack

/-- Run the steps of a load. If they fail, what they hold is given back; the answer of steps that
succeed comes with what they hold. -/
def transaction (steps : LoadStep σ α) : Attempt σ (α × Holdings) := fun w =>
  match steps { world := w } with
  | (.ok a, p) => (.ok (a, p.held), p.world)
  | (.error e, p) => ((l.rollBack p.held).map fun _ => .error e) p.world

/-- The host image: the one indexed before or else the one that the settings name. -/
def hostImage : Attempt σ Host.Image := do
  let w ← get
  match w.loader.hostImage with
  | some image => return image
  | none => do
    let image ← Attempt.ofExcept (Host.Image.load w.host l.settings)
    Attempt.report image.indexedEvent
    Attempt.perform (World.updateLoader fun s => { s with hostImage := some image })
    return image

/-- Bind the undefined globals of an executable. The host image is looked at only when there are
any. -/
def bindUndefined (agent : AgentHandle) (executable : ExecutableHandle) (undefined : List String) :
    LoadStep σ Unit := do
  if undefined.isEmpty then return
  else do
    let host ← LoadStep.attempt l.hostImage
    let pins ← LoadStep.attempt (l.bindGlobals host agent executable undefined)
    LoadStep.hold ({ · with pins })

/-- A new executable. -/
def newExecutable : LoadStep σ ExecutableHandle := do
  let executable ← LoadStep.call .loadFailed l.accelerator.createExecutable
  LoadStep.hold ({ · with executable := some executable })
  return executable

/-- Load the file at a path into a new executable. -/
def loadFileSteps (agent : AgentHandle) (path : String) (undefined : List String) :
    LoadStep σ ExecutableHandle := do
  let executable ← l.newExecutable
  l.bindUndefined agent executable undefined
  let files := (← get).world.host.files
  let reader ← LoadStep.call .loadFailed (l.accelerator.createReader files path)
  LoadStep.hold ({ · with reader := some reader })
  LoadStep.call .loadFailed (l.accelerator.loadReader executable agent reader)
  LoadStep.call .loadFailed (l.accelerator.freeze executable)
  return executable

/-- A failure to find or get memory. -/
def memoryError (e : CallError) : LoadError := .outOfMemory e.message

/-- The region that a device image of an agent goes to. -/
def imageRegion (agent : AgentHandle) : LoadStep σ RegionHandle := do
  match ← LoadStep.call memoryError (l.accelerator.findRegion agent) with
  | some region => return region
  | none =>
    throw (.outOfMemory s!"{agent.label} has no global fine-grained memory region")

/-- Copy an image to device memory and load it into a new executable. -/
def loadImageSteps (agent : AgentHandle) (image : Bytes) (undefined : List String) :
    LoadStep σ (ExecutableHandle × DeviceImage) := do
  let region ← l.imageRegion agent
  let address ← LoadStep.call memoryError (l.accelerator.allocate region image.length)
  LoadStep.hold ({ · with allocation := some address })
  LoadStep.call .loadFailed (l.accelerator.writeMemory address image)
  let codeObject ← LoadStep.call .loadFailed (l.accelerator.deserialize address image.length)
  LoadStep.hold ({ · with codeObject := some codeObject })
  let executable ← l.newExecutable
  l.bindUndefined agent executable undefined
  LoadStep.call .loadFailed (l.accelerator.loadCodeObject executable agent codeObject)
  LoadStep.call .loadFailed (l.accelerator.freeze executable)
  return (executable, { address, size := image.length, codeObject })

/-- Number a module that is complete, and keep what must outlive it. -/
def commit (held : Holdings) : Action σ ModuleId := do
  let id := (← get).loader.nextModule
  World.updateLoader fun s =>
    { s with
      nextModule := id + 1
      residency := s.residency.retain id held.pins held.reader }
  return id

/-- Log that a module is complete. -/
def announce (m : LoadedModule) (undefined : Nat) : Action σ Unit := do
  World.report (.moduleLoad m.source.label m.image.length undefined)
  World.report (.moduleLoaded m undefined)

/-- Load the file at a path for the caller's current device. -/
def load (current : Option Device) (path : String) : Attempt σ LoadedModule := do
  let device ← Attempt.device current
  Attempt.report (.loadStarted path none)
  let image ← match (← get).host.files.read path with
    | .ok bytes => pure bytes
    | .error fault => throw (.fileNotFound path fault.message)
  let undefined ← Attempt.wellFormed (Elf.Object.parse image >>= Elf.Object.undefinedGlobals)
  let (executable, held) ← l.transaction (l.loadFileSteps device.agent path undefined)
  let id ← Attempt.perform (commit held)
  let m : LoadedModule := { id, agent := device.agent, executable, source := .file path, image }
  Attempt.perform (announce m undefined.length)
  return m

/-- The part of an image that a load copies: all of the object, and nothing after it. -/
def objectBytes (o : Elf.Object) : Except LoadError Bytes :=
  if o.bytes.length < o.extent then
    .error (.malformedObject (.truncated "code object" 0 o.extent o.bytes.length))
  else if o.extent = 0 then .error (.invalidValue .noSections)
  else .ok (o.bytes.take o.extent)

/-- Load an image in memory for the caller's current device. Bytes after the object are ignored. -/
def loadData (current : Option Device) (bytes : Bytes) : Attempt σ LoadedModule := do
  let device ← Attempt.device current
  Attempt.report (.loadStarted "memory" (some bytes.length))
  let o ← Attempt.wellFormed (Elf.Object.parse bytes)
  let image ← Attempt.ofExcept (objectBytes o)
  let undefined ← Attempt.wellFormed o.undefinedGlobals
  let ((executable, deviceImage), held) ←
    l.transaction (l.loadImageSteps device.agent image undefined)
  let id ← Attempt.perform (commit held)
  let m : LoadedModule :=
    { id, agent := device.agent, executable, source := .memory, image,
      deviceImage := some deviceImage }
  Attempt.perform (announce m undefined.length)
  return m

/-- Load an image in memory; the options have no effect. -/
def loadDataWith (current : Option Device) (bytes : Bytes) (options : List LoadOption) :
    Attempt σ LoadedModule := do
  if options.isEmpty then l.loadData current bytes
  else do
    Attempt.report (.optionsIgnored options)
    l.loadData current bytes

end Loader

end DeviceCode
