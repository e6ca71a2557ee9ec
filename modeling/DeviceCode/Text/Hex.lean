import DeviceCode.Bytes

/-!
# Hexadecimal text

Addresses, handles and statuses are written with a `0x` mark and no padding; byte strings with two
digits a byte. Digits are lower case.
-/

namespace DeviceCode.Text

/-- The digits of `n` in base sixteen, without a mark. -/
def hexDigits (n : Nat) : String := String.ofList (Nat.toDigits 16 n)

/-- `n` as `0x..`. -/
def hex (n : Nat) : String := "0x" ++ hexDigits n

/-- Two digits for one byte. -/
def hexByte (b : UInt8) : List Char :=
  [Nat.digitChar (b.toNat / 16), Nat.digitChar (b.toNat % 16)]

/-- Two digits for each byte, with nothing between them. -/
def hexBytes (bs : Bytes) : String := String.ofList (bs.flatMap hexByte)

end DeviceCode.Text
