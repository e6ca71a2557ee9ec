import Mathlib
import DeviceCode.Reader

/-!
# Fields that are written and read back

`Bytes.toNat_ofNat` says what reading back a number of `w` bytes gives, in either byte order, and
`Reader.number_append` that a reader takes exactly those bytes off the front.
-/

namespace DeviceCode

namespace Bytes

theorem toNatLE_ofNatLE (w n : Nat) : toNatLE (ofNatLE w n) = n % 256 ^ w := by
  induction w generalizing n with
  | zero => simp [ofNatLE, toNatLE, Nat.mod_one]
  | succ w ih =>
    have h : (UInt8.ofNat (n % 256)).toNat = n % 256 := by simp
    rw [ofNatLE, toNatLE, ih, h, Nat.pow_succ, Nat.mul_comm (256 ^ w), Nat.mod_mul]

/-- Reading back what was written gives the number modulo `256 ^ w`, in either order. -/
theorem toNat_ofNat (order : ByteOrder) (w n : Nat) :
    toNat order (ofNat order w n) = n % 256 ^ w := by
  cases order <;> simp [toNat, ofNat, toNatLE_ofNatLE]

end Bytes

namespace Reader

theorem number_append (order : ByteOrder) (w n : Nat) (rest : Bytes) :
    number order w (Bytes.ofNat order w n ++ rest) = some (n % 256 ^ w, rest) := by
  have hl := Bytes.length_ofNat order w n
  have ht : (Bytes.ofNat order w n ++ rest).take w = Bytes.ofNat order w n := by
    rw [List.take_append_of_le_length (by omega), List.take_of_length_le (by omega)]
  have hd : (Bytes.ofNat order w n ++ rest).drop w = rest := by
    rw [List.drop_append_of_le_length (by omega), List.drop_of_length_le (by omega),
      List.nil_append]
  have hw : w ≤ (Bytes.ofNat order w n ++ rest).length := by
    rw [List.length_append, hl]; omega
  simp only [number, if_pos hw, ht, hd, Bytes.toNat_ofNat]

end Reader

end DeviceCode
