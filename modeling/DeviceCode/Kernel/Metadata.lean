import DeviceCode.JsonText
import DeviceCode.Kernel.Parameter
import DeviceCode.Text.Numeral

/-!
# Kernel metadata

A metadata document declares kernels and their parameters:
`{"kernels":[{"name":"k","args":[{"name":"a","size":8,"align":8}]}]}`. A record may also be written
as the array of its fields, in the order in which they are printed.

Members that are not known are skipped, a known member may be given once only. The names and types
of parameters may be absent or null, the parameters of a kernel may be absent; everything else is
required. Sizes are plain non-negative integers below `2 ^ 64`.

`print` writes the compact form without absent members.
-/

namespace DeviceCode

open JsonText

/-- A kernel and its formal parameters. -/
structure KernelDecl where
  name : String
  parameters : List Parameter
  deriving DecidableEq, Repr

/-- What a metadata document declares. -/
structure Metadata where
  kernels : List KernelDecl
  deriving DecidableEq, Repr

namespace Metadata

/-! ## Reading -/

/-- The values of a record's known fields, in the order of `fields`. Of an array these are its
items, which may not outnumber the fields. -/
def fieldValues? (fields : List String) : Value → Option (List (Option Value))
  | .array items =>
    if items.length ≤ fields.length then
      some (items.map some ++ List.replicate (fields.length - items.length) none)
    else none
  | .object members => do
    let keys ← members.mapM (·.1)
    if fields.all fun f => keys.count f ≤ 1 then
      return fields.map fun f => (members.find? (·.1 == some f)).map (·.2)
    else none
  | _ => none

def text? : Value → Option String
  | .string content => content
  | _ => none

/-- A text that may be absent or null. -/
def optionalText? : Option Value → Option (Option String)
  | none => some none
  | some .null => some none
  | some v => (text? v).map some

/-- A non-negative integer literal below `2 ^ 64`. -/
def size? : Value → Option Nat
  | .number text => if text.all Char.isDigit then Text.numeral? 10 text else none
  | _ => none

def parameter? (v : Value) : Option Parameter := do
  match ← fieldValues? ["name", "type", "size", "align"] v with
  | [name, typeName, some size, some align] =>
    return { name := ← optionalText? name
             typeName := ← optionalText? typeName
             size := ← size? size
             align := ← size? align }
  | _ => none

def parameters? : Option Value → Option (List Parameter)
  | none => some []
  | some (.array items) => items.mapM parameter?
  | some _ => none

def kernel? (v : Value) : Option KernelDecl := do
  match ← fieldValues? ["name", "args"] v with
  | [some name, args] => return { name := ← text? name, parameters := ← parameters? args }
  | _ => none

def ofValue? (v : Value) : Option Metadata := do
  match ← fieldValues? ["kernels"] v with
  | [some (.array items)] => return { kernels := ← items.mapM kernel? }
  | _ => none

/-- Read a metadata document. -/
def parse? (text : String) : Option Metadata := (JsonText.parse text).bind ofValue?

/-! ## Writing -/

/-- Items between brackets, separated by commas. -/
def bracket (opening closing : Char) (items : List (List Char)) : List Char :=
  opening :: ((items.intersperse [',']).flatten ++ [closing])

/-- One member of an object. -/
def member (key : String) (value : List Char) : List Char := quoteChars key ++ ':' :: value

def printNat (n : Nat) : List Char := Nat.toDigits 10 n

def printParameter (p : Parameter) : List Char :=
  bracket '\x7b' '\x7d'
    ((p.name.map fun n => member "name" (quoteChars n)).toList
      ++ (p.typeName.map fun t => member "type" (quoteChars t)).toList
      ++ [member "size" (printNat p.size), member "align" (printNat p.align)])

def printKernel (k : KernelDecl) : List Char :=
  bracket '\x7b' '\x7d'
    [member "name" (quoteChars k.name),
     member "args" (bracket '[' ']' (k.parameters.map printParameter))]

/-- The compact form of a metadata document. -/
def print (m : Metadata) : String :=
  String.ofList (bracket '\x7b' '\x7d'
    [member "kernels" (bracket '[' ']' (m.kernels.map printKernel))])

end Metadata

end DeviceCode
