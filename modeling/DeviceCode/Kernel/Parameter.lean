/-!
# Formal parameters of a kernel
-/

namespace DeviceCode

/-- One formal parameter. -/
structure Parameter where
  name : Option String := none
  typeName : Option String := none
  /-- Size in bytes. -/
  size : Nat
  /-- Alignment in bytes; layouts accept powers of two only. -/
  align : Nat
  deriving DecidableEq, Repr

/-- A kernel entry point, as a launch needs it. -/
structure KernelFunction where
  name : String
  /-- Address of the kernel's code descriptor. -/
  kernelObject : UInt64
  /-- Group memory that the kernel always needs. -/
  groupSize : UInt32
  /-- Private memory per work-item. -/
  privateSize : UInt32
  /-- Size of the argument segment. -/
  argumentSize : UInt32
  deriving DecidableEq, Repr

end DeviceCode
