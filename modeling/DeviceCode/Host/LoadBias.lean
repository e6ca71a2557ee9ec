import DeviceCode.Host.FileSystem
import DeviceCode.Settings

/-!
# Where the host image is mapped

A position-independent program runs at an address chosen when it starts. Its symbols lie at their
values plus the load bias: the address at which the image's address zero is mapped. Explicit
settings win; otherwise only the running program's own image has a bias, and it is the start of the
first mapping of the image from file offset zero.
-/

namespace DeviceCode.Host

/-- What the running program can find out about itself. -/
structure System where
  files : FileSystem
  /-- The listing of the program's memory mappings, one a line. -/
  mappings : String := ""
  deriving DecidableEq, Repr

/-- The start of the mapping that a line describes, if it maps the image from offset zero. The line
is `start-end permissions offset device inode path`. -/
def mappingStart? (image line : String) : Option Nat :=
  match (Text.words line.toList).map String.ofList with
  | range :: _permissions :: offset :: _device :: _inode :: path :: _ => do
    let offset ← if samePath path image then Text.numeral? 16 offset.toList else none
    if offset = 0 ∧ range.contains '-' then
      Text.numeral? 16 (range.toList.takeWhile (· ≠ '-'))
    else none
  | _ => none

/-- The start address of the mapping of an image from file offset zero, in a listing of mappings. -/
def mappingBase? (listing image : String) : Option Nat :=
  (listing.splitOn "\n").findSome? (mappingStart? image)

/-- The absolute path of a place. -/
def Place.path (p : Place) : String := "/" ++ "/".intercalate p

/-- The load bias of the host image. -/
def loadBias (sys : System) (settings : LoaderSettings) (positionIndependent : Bool) : UInt64 :=
  match settings.loadBias with
  | some bias => bias
  | none =>
    if !positionIndependent then 0
    else
      match sys.files.canonical? settings.hostImage with
      | none => 0
      | some image =>
        if sys.files.canonical? ownImage = some image then
          UInt64.ofNat ((mappingBase? sys.mappings (Place.path image)).getD 0)
        else 0

end DeviceCode.Host
