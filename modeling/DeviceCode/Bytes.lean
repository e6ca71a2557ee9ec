/-!
# Byte strings and fixed-width integers

Images, argument buffers and packets are all lists of bytes. An integer of `w` bytes is written by
`Bytes.ofNat` and read back by `Bytes.toNat`, in either byte order; writing drops what does not fit
in `w` bytes, so reading back gives the integer modulo `256 ^ w`.

Bounds are compared in `Nat`, so an offset and a size close to `2 ^ 64` cannot wrap around and look
like a range inside the image.
-/

namespace DeviceCode

/-- A byte string. -/
abbrev Bytes := List UInt8

/-- Which end of an integer comes first in memory. -/
inductive ByteOrder where
  | little
  | big
  deriving DecidableEq, Repr

namespace Bytes

/-- The `w` low bytes of `n`, least significant first. -/
def ofNatLE : Nat → Nat → Bytes
  | 0, _ => []
  | w + 1, n => UInt8.ofNat (n % 256) :: ofNatLE w (n / 256)

/-- The number whose bytes these are, least significant first. -/
def toNatLE : Bytes → Nat
  | [] => 0
  | b :: bs => b.toNat + 256 * toNatLE bs

/-- The `w` low bytes of `n` in the given order. -/
def ofNat (order : ByteOrder) (w n : Nat) : Bytes :=
  match order with
  | .little => ofNatLE w n
  | .big => (ofNatLE w n).reverse

/-- The number that these bytes spell in the given order. -/
def toNat (order : ByteOrder) (bs : Bytes) : Nat :=
  match order with
  | .little => toNatLE bs
  | .big => toNatLE bs.reverse

@[simp] theorem length_ofNatLE (w n : Nat) : (ofNatLE w n).length = w := by
  induction w generalizing n with
  | zero => rfl
  | succ w ih => simp [ofNatLE, ih]

@[simp] theorem length_ofNat (order : ByteOrder) (w n : Nat) : (ofNat order w n).length = w := by
  cases order <;> simp [ofNat]

/-- Two bytes. -/
def ofHalf (order : ByteOrder) (n : UInt16) : Bytes := ofNat order 2 n.toNat

/-- Four bytes. -/
def ofFull (order : ByteOrder) (n : UInt32) : Bytes := ofNat order 4 n.toNat

/-- Eight bytes. -/
def ofLong (order : ByteOrder) (n : UInt64) : Bytes := ofNat order 8 n.toNat

/-- `n` zero bytes. -/
def zeros (n : Nat) : Bytes := List.replicate n 0

/-- The `size` bytes that start at `offset`. -/
def slice (bs : Bytes) (offset size : Nat) : Bytes := (bs.drop offset).take size

/-- `[offset, offset + size)` lies inside the byte string. -/
def Holds (bs : Bytes) (offset size : Nat) : Prop := offset + size ≤ bs.length

instance (bs : Bytes) (offset size : Nat) : Decidable (Holds bs offset size) :=
  inferInstanceAs (Decidable (offset + size ≤ bs.length))

/-- Replace the bytes from `offset` on by `new`. -/
def overwrite (bs : Bytes) (offset : Nat) (new : Bytes) : Bytes :=
  bs.take offset ++ new ++ bs.drop (offset + new.length)

theorem length_slice {bs : Bytes} {offset size : Nat} (h : Holds bs offset size) :
    (slice bs offset size).length = size := by
  simp only [Holds] at h
  simp only [slice, List.length_take, List.length_drop]
  omega

theorem length_overwrite {bs new : Bytes} {offset : Nat} (h : Holds bs offset new.length) :
    (overwrite bs offset new).length = bs.length := by
  simp only [Holds] at h
  simp only [overwrite, List.length_append, List.length_take, List.length_drop]
  omega

end Bytes

/-- The least multiple of `align` that is at least `n`. -/
def alignUp (n align : Nat) : Nat := (n + align - 1) / align * align

/-- The largest 64-bit number. -/
def maxWord : Nat := UInt64.size - 1

/-- The largest size that a buffer in memory can have: distances within it are signed 64-bit
numbers. -/
def maxCapacity : Nat := UInt64.size / 2 - 1

/-- Addition that stops at the largest 64-bit number. -/
def saturatingAdd (a b : Nat) : Nat := min (a + b) maxWord

end DeviceCode
