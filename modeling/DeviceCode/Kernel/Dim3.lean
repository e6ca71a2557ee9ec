/-!
# Three-component sizes

Grids and blocks are counted in three dimensions of 32-bit numbers.
-/

namespace DeviceCode

/-- A number of work-items or work-groups in each of three dimensions. -/
structure Dim3 where
  x : UInt32
  y : UInt32
  z : UInt32
  deriving DecidableEq, Repr

namespace Dim3

/-- The product of two 32-bit numbers, if it is one too. -/
def mulComponent? (a b : UInt32) : Option UInt32 :=
  let product := a.toNat * b.toNat
  if product < UInt32.size then some (UInt32.ofNat product) else none

/-- The product in each dimension, if all three fit. -/
def mul? (a b : Dim3) : Option Dim3 := do
  let x ← mulComponent? a.x b.x
  let y ← mulComponent? a.y b.y
  let z ← mulComponent? a.z b.z
  return ⟨x, y, z⟩

/-- How many blocks of `b` cover `a`; none when `b` is zero. -/
def coverComponent (a b : UInt32) : UInt32 :=
  if b = 0 then 0 else UInt32.ofNat ((a.toNat + b.toNat - 1) / b.toNat)

/-- How many blocks cover a grid in each dimension. -/
def cover (grid block : Dim3) : Dim3 :=
  ⟨coverComponent grid.x block.x, coverComponent grid.y block.y, coverComponent grid.z block.z⟩

def toList (d : Dim3) : List Nat := [d.x.toNat, d.y.toNat, d.z.toNat]

/-- The product of all three components. -/
def volume (d : Dim3) : Nat := d.x.toNat * d.y.toNat * d.z.toNat

/-- The sizes by name, as messages show them. -/
def describe (d : Dim3) : String :=
  s!"Dim3 \x7b x: {d.x.toNat}, y: {d.y.toNat}, z: {d.z.toNat} \x7d"

end Dim3

end DeviceCode
