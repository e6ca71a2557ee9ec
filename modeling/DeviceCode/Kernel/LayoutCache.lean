import DeviceCode.Assoc
import DeviceCode.Kernel.ArgLayout
import DeviceCode.Kernel.Metadata
import DeviceCode.Trace.Event

/-!
# Known argument layouts

Kernels are known by name. The parameters of a kernel are declared, and its layout is computed from
the declaration when it is first needed; a layout can also be registered as it is. A later
declaration drops the layout, a later registration replaces it.
-/

namespace DeviceCode

/-- Declared parameters and known layouts, by kernel name. -/
structure LayoutCache where
  declared : Assoc String (List Parameter) := {}
  layouts : Assoc String ArgLayout := {}
  deriving DecidableEq, Repr

namespace LayoutCache

variable (c : LayoutCache)

/-- Declare the parameters of a kernel; what was known about it is forgotten. -/
def declare (kernel : String) (ps : List Parameter) : LayoutCache where
  declared := c.declared.put kernel ps
  layouts := c.layouts.erase kernel

/-- Declare the kernels of a document in their order. -/
def declareAll (m : Metadata) : LayoutCache :=
  m.kernels.foldl (fun c k => c.declare k.name k.parameters) c

/-- Make a layout known. -/
def register (kernel : String) (l : ArgLayout) : LayoutCache :=
  { c with layouts := c.layouts.put kernel l }

/-- The layout of a kernel, if it is known already. -/
def get? (kernel : String) : Option ArgLayout := c.layouts.get? kernel

def isDeclared (kernel : String) : Bool := c.declared.contains kernel

/-- How many layouts are known. -/
def size : Nat := c.layouts.size

/-- The layout that the declaration of a kernel leads to. -/
def compute (kernel : String) : Except LoadError ArgLayout :=
  match c.declared.get? kernel with
  | none => .error (.noLayout kernel)
  | some ps =>
    match ArgLayout.ofParameters ps with
    | .error cause => .error (.invalidValue cause)
    | .ok l => .ok l

/-- The layout of a kernel, computed if it is not known yet, and the cache in which it is known. -/
def getOrCompute (kernel : String) : Except LoadError (ArgLayout × LayoutCache) :=
  match c.get? kernel with
  | some l => .ok (l, c)
  | none => (c.compute kernel).map fun l => (l, c.register kernel l)

/-- The event that reports a layout computed from a declaration. -/
def computedEvent (kernel : String) (l : ArgLayout) : Trace.Event where
  level := .debug
  message := "kernarg_layout_cached"
  fields := [("kernel", kernel), Trace.Event.count "args" l.parameters.length,
    Trace.Event.count "total_size" l.totalSize]

end LayoutCache

end DeviceCode
