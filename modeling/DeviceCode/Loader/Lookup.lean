import DeviceCode.Loader.World

/-!
# Looking symbols up in a module

A function that was found once is remembered by its module, and is answered from there as long as
the module's executable exists. Variables are looked up every time: the address is the
accelerator's, the size is the one that the module's image declares, or else the accelerator's.
-/

namespace DeviceCode

variable {σ : Type}

/-- A function was found for the first time. -/
def Trace.Event.functionResolved (m : LoadedModule) (f : KernelFunction) : Trace.Event where
  level := .debug
  message := "function_resolved"
  fields := [("module", m.label), ("kernel", f.name), count "kernel_object" f.kernelObject.toNat,
    count "group_segment_size" f.groupSize.toNat, count "private_segment_size" f.privateSize.toNat]

/-- The kernel that a symbol stands for, under the name that was asked for. -/
def ExecutableSymbol.toFunction (s : ExecutableSymbol) (name : String) : KernelFunction where
  name := name
  kernelObject := s.address
  groupSize := s.groupSize
  privateSize := s.privateSize
  argumentSize := s.argumentSize

namespace Loader

variable (l : Loader σ)

/-- The executable of a module that was not unloaded in part. -/
def liveExecutable (m : LoadedModule) : Attempt σ ExecutableHandle :=
  Attempt.valid (if m.released.executable then .error (.executableGone m.id) else .ok m.executable)

/-- Ask the accelerator for a symbol of a module that fits. -/
def findSymbol (device : Device) (m : LoadedModule) (name : String)
    (fits : ExecutableSymbol → Bool) : Attempt σ ExecutableSymbol := do
  let found ← Attempt.call (.symbolQuery name)
    (l.accelerator.getSymbol m.executable device.agent name)
  match found.filter fits with
  | some s => return s
  | none => throw (.symbolNotFound name)

/-- The function of a given name, and the module that remembers it. -/
def getFunction (current : Option Device) (m : LoadedModule) (name : String) :
    Attempt σ (KernelFunction × LoadedModule) := do
  let device ← Attempt.device current
  let _ ← liveExecutable m
  match m.known? name with
  | some f => return (f, m)
  | none => do
    let s ← l.findSymbol device m name (·.isKernel)
    let f := s.toFunction name
    Attempt.report (.functionResolved m f)
    return (f, { m with functions := m.functions ++ [f] })

/-- The variable of a given name. -/
def getGlobal (current : Option Device) (m : LoadedModule) (name : String) :
    Attempt σ GlobalVariable := do
  let device ← Attempt.device current
  let _ ← liveExecutable m
  let s ← l.findSymbol device m name fun _ => true
  let declared ← Attempt.wellFormed (Elf.Object.parse m.image >>= (·.symbolSize name))
  return { address := s.address, size := if declared = 0 then s.size else UInt64.ofNat declared }

end Loader

end DeviceCode
