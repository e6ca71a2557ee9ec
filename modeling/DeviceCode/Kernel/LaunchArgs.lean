import DeviceCode.Kernel.ArgLayout

/-!
# The two forms of launch arguments

A launch brings its arguments either as one byte string per parameter or as a descriptor: five words
that name a buffer which is packed already. Giving both forms, or neither, is an error.
-/

namespace DeviceCode

/-- A descriptor must be the words `1, pointer, 2, size, 3`. -/
def parseDescriptor : List Nat → Except InvalidValue (Nat × Nat)
  | [1, pointer, 2, size, 3] => .ok (pointer, size)
  | words => .error (.descriptor words)

/-- The arguments of one launch. -/
structure LaunchArgs where
  /-- One byte string per parameter. -/
  parameters : Option (List Bytes) := none
  /-- The words of a descriptor. -/
  descriptor : Option (List Nat) := none
  /-- The bytes that lie at an address of the caller's memory, by address and size. -/
  memory : Nat → Nat → Bytes := fun _ size => Bytes.zeros size

/-- The one form in which the arguments of a launch come. -/
inductive ArgForm where
  | structured (arguments : List Bytes)
  | described (words : List Nat)
  deriving DecidableEq, Repr

/-- Argument bytes ready for submission. -/
inductive PackedArgs where
  /-- Packed from one byte string per parameter. -/
  | owned (bytes : Bytes)
  /-- The caller's own buffer. -/
  | borrowed (bytes : Bytes)
  deriving DecidableEq, Repr

def PackedArgs.bytes : PackedArgs → Bytes
  | .owned bs => bs
  | .borrowed bs => bs

def PackedArgs.isOwned : PackedArgs → Bool
  | .owned _ => true
  | .borrowed _ => false

namespace LaunchArgs

/-- The form of the arguments, if there is exactly one. -/
def form (args : LaunchArgs) : Except LoadError ArgForm :=
  match args.parameters, args.descriptor with
  | some _, some _ => .error .bothArgumentForms
  | none, none => .error .missingArguments
  | some arguments, none => .ok (.structured arguments)
  | none, some words => .ok (.described words)

/-- The bytes that a descriptor names. Nothing is read when the size is zero. -/
def readDescriptor (args : LaunchArgs) (words : List Nat) : Except InvalidValue Bytes := do
  let (pointer, size) ← parseDescriptor words
  if size = 0 then return []
  else if pointer = 0 then throw .nullBuffer
  else return args.memory pointer size

end LaunchArgs

end DeviceCode
