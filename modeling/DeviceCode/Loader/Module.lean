import DeviceCode.Assoc
import DeviceCode.Bytes
import DeviceCode.Handle
import DeviceCode.Kernel.Parameter
import DeviceCode.Text.Quoted

/-!
# Modules

A module is device code that was loaded and frozen. It keeps its image, the functions that were
looked up in it, and a note of what an unload that stopped half-way has released already.
-/

namespace DeviceCode

/-- Numbers of modules. -/
abbrev ModuleId := Nat

/-- The module as messages show it. -/
def moduleLabel (id : ModuleId) : String := s!"module{id}"

/-- Where a module's image came from. -/
inductive ModuleSource where
  | file (path : String)
  | memory
  deriving DecidableEq, Repr

namespace ModuleSource

def label : ModuleSource → String
  | .file path => path
  | .memory => "<memory>"

def path? : ModuleSource → Option String
  | .file path => some path
  | .memory => none

def describe : ModuleSource → String
  | .file path => s!"File({Text.quoted path})"
  | .memory => "Memory"

end ModuleSource

/-- The copy of an image in device memory and the code object read from it. -/
structure DeviceImage where
  address : Nat
  size : Nat
  codeObject : CodeObjectHandle
  deriving DecidableEq, Repr

def DeviceImage.describe (d : DeviceImage) : String :=
  s!"DeviceImage \x7b address: {d.address}, size: {d.size}, "
    ++ s!"code_object: {d.codeObject.describe} \x7d"

/-- What the unloads of a module have released so far. -/
structure Released where
  executable : Bool := false
  codeObject : Bool := false
  deviceImage : Bool := false
  deriving DecidableEq, Repr

def Released.describe (r : Released) : String :=
  s!"ReleaseState \x7b executable: {r.executable}, code_object: {r.codeObject}, "
    ++ s!"device_image: {r.deviceImage} \x7d"

/-- A loaded module. -/
structure LoadedModule where
  id : ModuleId
  /-- The agent that it was loaded for. -/
  agent : AgentHandle
  executable : ExecutableHandle
  source : ModuleSource
  /-- The object file, kept for the sizes of its symbols. -/
  image : Bytes
  /-- Only modules loaded from memory have one. -/
  deviceImage : Option DeviceImage := none
  /-- The functions looked up so far, in the order in which they were first found. -/
  functions : List KernelFunction := []
  released : Released := {}
  deriving DecidableEq, Repr

namespace LoadedModule

variable (m : LoadedModule)

def label : String := moduleLabel m.id

/-- The function of a given name, if it was looked up before. -/
def known? (name : String) : Option KernelFunction := m.functions.find? (·.name == name)

def describe : String :=
  s!"Module \x7b id: ModuleId({m.id}), agent: {m.agent.describe}, "
    ++ s!"executable: {m.executable.describe}, source: {m.source.describe}, "
    ++ s!"image_len: {m.image.length}, "
    ++ s!"device_image: {describeOption (m.deviceImage.map (·.describe))}, "
    ++ s!"functions: {m.functions.length}, released: {m.released.describe} \x7d"

end LoadedModule

/-- A variable of a module. -/
structure GlobalVariable where
  address : UInt64
  size : UInt64
  deriving DecidableEq, Repr

/-- Options that may accompany a load from memory. None of them has an effect. -/
inductive LoadOption where
  | maxRegisters (n : Nat)
  | threadsPerBlock (n : Nat)
  | optimizationLevel (n : Nat)
  | infoLogSize (n : Nat)
  | errorLogSize (n : Nat)
  | other (option value : Nat)
  deriving DecidableEq, Repr

def LoadOption.describe : LoadOption → String
  | .maxRegisters n => s!"MaxRegisters({n})"
  | .threadsPerBlock n => s!"ThreadsPerBlock({n})"
  | .optimizationLevel n => s!"OptimizationLevel({n})"
  | .infoLogSize n => s!"InfoLogBufferBytes({n})"
  | .errorLogSize n => s!"ErrorLogBufferBytes({n})"
  | .other option value => s!"Other \x7b option: {option}, value: {value} \x7d"

end DeviceCode
