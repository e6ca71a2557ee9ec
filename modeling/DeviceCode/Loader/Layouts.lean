import DeviceCode.Kernel.LaunchArgs
import DeviceCode.Loader.World

/-!
# Argument layouts of a loader

Kernels are declared one by one or by a metadata document, or their layouts are registered as they
are. The layout of a declared kernel is computed when it is first needed, and that is logged once.
-/

namespace DeviceCode

variable {σ : Type}

/-- A document of kernels was registered. -/
def Trace.Event.metadataRegistered (kernels : Nat) : Trace.Event where
  level := .debug
  message := "kernel_metadata_registered"
  fields := [count "kernels" kernels]

namespace World

/-- Declare the parameters of a kernel. -/
def declareKernel (kernel : String) (ps : List Parameter) : Action σ Unit :=
  updateLoader fun s => { s with layouts := s.layouts.declare kernel ps }

/-- Register the layout of a kernel. -/
def registerLayout (kernel : String) (layout : ArgLayout) : Action σ Unit :=
  updateLoader fun s => { s with layouts := s.layouts.register kernel layout }

/-- Declare the kernels of a document; the answer is how many there are. -/
def declareDocument (text : String) : Attempt σ Nat := do
  match Metadata.parse? text with
  | none => throw .invalidMetadata
  | some m => do
    Attempt.perform (updateLoader fun s => { s with layouts := s.layouts.declareAll m })
    Attempt.report (.metadataRegistered m.kernels.length)
    return m.kernels.length

/-- The layout of a kernel. -/
def layoutOf (kernel : String) : Attempt σ ArgLayout := do
  let cache := (← get).loader.layouts
  let (layout, cache') ← Attempt.ofExcept (cache.getOrCompute kernel)
  if (cache.get? kernel).isSome then return layout
  else do
    Attempt.perform (updateLoader fun s => { s with layouts := cache' })
    Attempt.report (LayoutCache.computedEvent kernel layout)
    return layout

/-- The argument bytes of a launch. -/
def packArguments (kernel : String) (args : LaunchArgs) : Attempt σ PackedArgs := do
  match ← Attempt.ofExcept args.form with
  | .structured arguments => do
    let layout ← layoutOf kernel
    return .owned (← Attempt.ofExcept (layout.pack arguments))
  | .described words => return .borrowed (← Attempt.valid (args.readDescriptor words))

end World

end DeviceCode
