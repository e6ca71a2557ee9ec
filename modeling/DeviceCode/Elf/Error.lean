import DeviceCode.Text.Hex

/-!
# Why an object file is refused
-/

namespace DeviceCode.Elf

/-- Why an object, or a table inside it, could not be read. -/
inductive Error where
  /-- A header, a symbol or a string table does not decode. -/
  | undecodable
  /-- The version marker in the header or in the identification bytes is not the current one. -/
  | unsupportedVersion (found : Nat)
  /-- A table runs past the end of the image. -/
  | truncated (what : String) (offset size length : Nat)
  /-- Section header entries do not have the size that the object's word size asks for. -/
  | badSectionEntrySize (found expected : Nat)
  /-- The symbol table in section `index` does not have the entry size of the object's word size. -/
  | badSymbolEntrySize (index found expected : Nat)
  /-- Section `index` links to a section that is absent or holds no file data. -/
  | invalidLink (index link : Nat)
  deriving DecidableEq, Repr

/-- The short name of an error. -/
def Error.name : Error → String
  | .undecodable => "Decode"
  | .unsupportedVersion _ => "UnsupportedVersion"
  | .truncated _ _ _ _ => "Truncated"
  | .badSectionEntrySize _ _ => "BadSectionEntrySize"
  | .badSymbolEntrySize _ _ _ => "BadSymbolEntrySize"
  | .invalidLink _ _ => "InvalidLink"

/-- The only object version that is read. -/
def currentVersion : Nat := 1

open Text in
/-- The wording of an error. -/
def Error.message : Error → String
  | .undecodable => "object could not be decoded"
  | .unsupportedVersion found =>
    s!"unsupported object version {found} (expected {currentVersion})"
  | .truncated what offset size length =>
    s!"{what} at offset {hex offset} with size {hex size} exceeds image length {hex length}"
  | .badSectionEntrySize found expected =>
    s!"section header entry size {found} does not match expected {expected}"
  | .badSymbolEntrySize index found expected =>
    s!"symbol table in section {index} has entry size {found}, expected {expected}"
  | .invalidLink index link => s!"section {index} links to missing section {link}"

end DeviceCode.Elf
