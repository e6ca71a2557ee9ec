import DeviceCode.Error
import DeviceCode.Kernel.Parameter

/-!
# Argument layouts

The parameters of a kernel are placed in an argument buffer one after the other, each at the first
multiple of its alignment that is free. The buffer ends at the first multiple of the largest
alignment after the last parameter. A layout exists when every alignment is a power of two and
nothing on the way reaches past the largest 64-bit number.

`pack` writes one byte string per parameter into a zeroed buffer; `argument?` reads one back. The
buffer of a layout can be larger than anything that fits in memory, and then `pack` panics.
-/

namespace DeviceCode

/-- Where each parameter of a kernel lies in its argument buffer. -/
structure ArgLayout where
  parameters : List Parameter
  /-- The offset of each parameter, in order. -/
  offsets : List Nat
  /-- Size of the whole buffer. -/
  totalSize : Nat
  deriving DecidableEq, Repr

namespace ArgLayout

def isPowerOfTwo (n : Nat) : Bool := 1 <<< n.log2 == n

/-- The first multiple of `align` from `n` on, if the search for it stays in 64 bits. -/
def alignUp? (n align : Nat) : Except InvalidValue Nat :=
  if n + (align - 1) ≤ maxWord then .ok (alignUp n align) else .error .layoutOverflow

/-- Where these parameters lie when the first of them is the `index`-th and `free` is the first free
byte: their offsets and the first free byte after them. -/
def place (index free : Nat) : List Parameter → Except InvalidValue (List Nat × Nat)
  | [] => .ok ([], free)
  | p :: ps =>
    if isPowerOfTwo p.align then do
      let offset ← alignUp? free p.align
      if offset + p.size ≤ maxWord then do
        let (offsets, stop) ← place (index + 1) (offset + p.size) ps
        return (offset :: offsets, stop)
      else throw .layoutOverflow
    else throw (.alignment index p.align)

/-- The largest alignment among these parameters, at least one. -/
def maxAlign (ps : List Parameter) : Nat := ps.foldl (fun a p => max a p.align) 1

/-- The layout of these parameters. -/
def ofParameters (ps : List Parameter) : Except InvalidValue ArgLayout := do
  let (offsets, stop) ← place 0 0 ps
  let totalSize ← alignUp? stop (maxAlign ps)
  return { parameters := ps, offsets, totalSize }

variable (l : ArgLayout)

/-- The distance from each parameter's offset to the next one, or to the end of the buffer. -/
def strides : List Nat :=
  List.zipWith (fun next start => next - start) (l.offsets.tail ++ [l.totalSize]) l.offsets

/-- Write these arguments over a buffer; the first of them belongs to the `index`-th parameter. -/
def fill (buffer : Bytes) (index : Nat) :
    List (Bytes × Parameter × Nat) → Except InvalidValue Bytes
  | [] => .ok buffer
  | (argument, p, offset) :: rest =>
    if argument.length = p.size then fill (Bytes.overwrite buffer offset argument) (index + 1) rest
    else .error (.argumentSize index argument.length p.size)

/-- One byte string per parameter, each at its offset in a zeroed buffer. There must be as many as
parameters, and each must have its parameter's size. The buffer is made between these two checks. -/
def pack (arguments : List Bytes) : Except LoadError Bytes :=
  if arguments.length = l.parameters.length then
    if l.totalSize ≤ maxCapacity then
      (fill (Bytes.zeros l.totalSize) 0 (arguments.zip (l.parameters.zip l.offsets))).mapError
        .invalidValue
    else .error .capacityOverflow
  else .error (.invalidValue (.argumentCount l.parameters.length arguments.length))

/-- The bytes of the `index`-th parameter in a buffer, if the buffer reaches that far. -/
def argument? (buffer : Bytes) (index : Nat) : Option Bytes := do
  let offset ← l.offsets[index]?
  let p ← l.parameters[index]?
  if Bytes.Holds buffer offset p.size then some (Bytes.slice buffer offset p.size) else none

/-- The `index`-th parameter as a little-endian number of `width` bytes, if that is its size. -/
def number? (buffer : Bytes) (index width : Nat) : Option Nat := do
  let bs ← l.argument? buffer index
  if bs.length = width then some (Bytes.toNatLE bs) else none

end ArgLayout

end DeviceCode
