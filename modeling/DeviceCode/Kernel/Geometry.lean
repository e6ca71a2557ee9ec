import DeviceCode.Error

/-!
# Launch geometry

A launch is described by its total number of work-items and the size of a block, whichever way the
caller counted.
-/

namespace DeviceCode

/-- The geometry of one launch. -/
structure Geometry where
  /-- Work-items in each dimension, over all blocks. -/
  grid : Dim3
  /-- Work-items of one block. -/
  block : Dim3
  /-- Group memory on top of what the kernel always needs. -/
  dynamicShared : Nat
  deriving DecidableEq, Repr

namespace Geometry

/-- The geometry of `blocks` blocks of `block` work-items each. -/
def ofBlocks (blocks block : Dim3) (dynamicShared : Nat) : Except InvalidValue Geometry :=
  match blocks.mul? block with
  | some grid => .ok { grid, block, dynamicShared }
  | none => .error (.gridOverflow blocks block)

/-- How many blocks cover the grid. -/
def workgroups (g : Geometry) : Dim3 := g.grid.cover g.block

end Geometry

end DeviceCode
