import DeviceCode.Bytes

/-!
# Reading fields one after the other

A `Reader` takes a value off the front of a byte string and fails when too few bytes are left.
-/

namespace DeviceCode

/-- Takes a value off the front of a byte string. -/
abbrev Reader := StateT Bytes Option

namespace Reader

/-- The next `w` bytes as a number. -/
def number (order : ByteOrder) (w : Nat) : Reader Nat := fun bs =>
  if w ≤ bs.length then some (Bytes.toNat order (bs.take w), bs.drop w) else none

def byte : Reader UInt8 := UInt8.ofNat <$> number .little 1

def half (order : ByteOrder) : Reader UInt16 := UInt16.ofNat <$> number order 2

def full (order : ByteOrder) : Reader UInt32 := UInt32.ofNat <$> number order 4

def long (order : ByteOrder) : Reader UInt64 := UInt64.ofNat <$> number order 8

/-- Read `n` values one after the other. -/
def times {α : Type} (n : Nat) (r : Reader α) : Reader (List α) :=
  match n with
  | 0 => pure []
  | n + 1 => do
    let a ← r
    let rest ← times n r
    pure (a :: rest)

end Reader

end DeviceCode
