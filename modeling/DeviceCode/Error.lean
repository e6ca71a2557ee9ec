import DeviceCode.Elf.Error
import DeviceCode.Kernel.Dim3

/-!
# What can go wrong

Every operation on modules and kernels fails with a `LoadError`. Each names its cause; `message`
gives the wording and `kind?` the coarse class that a driver-style interface would report. A call to
the accelerator that fails brings its own `CallError`, which is kept inside.

One ending is no answer: with `LoadError.capacityOverflow` the operation panics, so its caller gets
neither a result nor an error of any class.
-/

namespace DeviceCode

open Text

/-- A call to the accelerator that did not succeed. -/
structure CallError where
  /-- The operation that failed. -/
  operation : String
  status : Nat
  reason : String
  deriving DecidableEq, Repr

def CallError.message (e : CallError) : String :=
  s!"{e.operation} failed with status {hex e.status}: {e.reason}"

/-- An accelerator that needs a driver library which is not there. -/
def CallError.missingDriver : CallError :=
  ⟨"hsa_init", 0x1000, "libhsa-runtime64.so could not be loaded"⟩

/-- The three directions of a block. -/
inductive Axis where
  | x
  | y
  | z
  deriving DecidableEq, Repr

def Axis.name : Axis → String
  | .x => "x"
  | .y => "y"
  | .z => "z"

/-- Why a value given by the caller is not acceptable. -/
inductive InvalidValue where
  /-- A parameter's alignment is not a power of two. -/
  | alignment (index align : Nat)
  /-- An argument buffer would not fit in the address space. -/
  | layoutOverflow
  | argumentCount (expected given : Nat)
  | argumentSize (index given expected : Nat)
  /-- An argument descriptor does not have the five-word shape. -/
  | descriptor (words : List Nat)
  | nullBuffer
  /-- The number of work-items in some dimension does not fit. -/
  | gridOverflow (blocks block : Dim3)
  | emptyBlock (axis : Axis)
  | wideBlock (axis : Axis) (size : Nat)
  /-- Static and dynamic group memory together do not fit. -/
  | groupOverflow (fixed dynamic : Nat)
  | unknownDevice (id : Nat)
  /-- The module's executable was destroyed by an unload that did not finish. -/
  | executableGone (moduleId : Nat)
  | noSections
  /-- A reason given by the caller. -/
  | other (reason : String)
  deriving DecidableEq, Repr

/-- Numbers in hexadecimal without marks, in brackets. -/
def hexList (ns : List Nat) : String := "[" ++ ", ".intercalate (ns.map hexDigits) ++ "]"

def InvalidValue.message : InvalidValue → String
  | .alignment index align => s!"argument {index} has alignment {align} (must be a power of two)"
  | .layoutOverflow => "argument layout overflows"
  | .argumentCount expected given => s!"kernel expects {expected} arguments, got {given}"
  | .argumentSize index given expected =>
    s!"argument {index} is {given} bytes, layout expects {expected}"
  | .descriptor ws =>
    "extra argument descriptor must be [BUFFER_POINTER, ptr, BUFFER_SIZE, size, END], got "
      ++ s!"{ws.length} words {hexList ws}"
  | .nullBuffer => "extra argument buffer pointer is null"
  | .gridOverflow blocks block =>
    s!"{blocks.describe} blocks of {block.describe} work-items exceed the grid size range"
  | .emptyBlock axis => s!"block {axis.name} dimension is zero"
  | .wideBlock axis size => s!"block {axis.name} dimension {size} exceeds 65535"
  | .groupOverflow fixed dynamic =>
    s!"group segment of {fixed} bytes plus {dynamic} bytes of dynamic shared memory overflows"
  | .unknownDevice id => s!"unknown device {id}"
  | .executableGone id => s!"module{id} was partially unloaded; its executable is gone"
  | .noSections => "code object has no section header table"
  | .other reason => reason

/-- The coarse class of a failure. -/
inductive ErrorKind where
  | invalidValue
  | notFound
  | invalidContext
  | outOfMemory
  | loadFailure
  | notInitialized
  deriving DecidableEq, Repr

/-- All classes, in order. -/
def ErrorKind.all : List ErrorKind :=
  [.invalidValue, .notFound, .invalidContext, .outOfMemory, .loadFailure, .notInitialized]

def ErrorKind.name : ErrorKind → String
  | .invalidValue => "InvalidValue"
  | .notFound => "NotFound"
  | .invalidContext => "InvalidContext"
  | .outOfMemory => "OutOfMemory"
  | .loadFailure => "LoadFailure"
  | .notInitialized => "NotInitialized"

def ErrorKind.message : ErrorKind → String
  | .invalidValue => "invalid value"
  | .notFound => "not found"
  | .invalidContext => "invalid context"
  | .outOfMemory => "out of memory"
  | .loadFailure => "load failure"
  | .notInitialized => "not initialized"

/-- Why an operation on modules or kernels failed. -/
inductive LoadError where
  /-- An argument is missing or malformed. -/
  | invalidValue (cause : InvalidValue)
  /-- The code object file cannot be read. -/
  | fileNotFound (path reason : String)
  /-- The image is not a well-formed object file. -/
  | malformedObject (cause : Elf.Error)
  /-- The device image needs a symbol that the host image does not define. -/
  | unresolvedSymbol (name : String)
  | hostImageUnavailable (path reason : String)
  /-- The executable has no symbol of this name and kind. -/
  | symbolNotFound (name : String)
  | symbolQuery (name : String) (cause : CallError)
  /-- No device is current for the calling thread. -/
  | noCurrentDevice
  | outOfMemory (reason : String)
  /-- A step of loading failed on the accelerator. -/
  | loadFailed (cause : CallError)
  /-- A call outside of loading failed on the accelerator. -/
  | callFailed (cause : CallError)
  /-- Structured arguments were given for a kernel without a known layout. -/
  | noLayout (kernel : String)
  | notInitialized (reason : String)
  /-- A launch came with arguments in neither form. -/
  | missingArguments
  /-- A launch came with arguments in both forms. -/
  | bothArgumentForms
  | invalidLaunch (reason : String)
  | invalidMetadata
  /-- A buffer was to be made that is larger than any can be, and the operation panicked. -/
  | capacityOverflow
  deriving DecidableEq, Repr

namespace LoadError

/-- The short name of a failure. Refused launches share a name, and so do kernels without a layout
with everything else that is not there yet. -/
def name : LoadError → String
  | .invalidValue _ => "InvalidValue"
  | .fileNotFound _ _ => "FileNotFound"
  | .malformedObject _ => "MalformedObject"
  | .unresolvedSymbol _ => "UnresolvedSymbol"
  | .hostImageUnavailable _ _ => "HostImageUnavailable"
  | .symbolNotFound _ => "SymbolNotFound"
  | .symbolQuery _ _ => "SymbolQuery"
  | .noCurrentDevice => "InvalidContext"
  | .outOfMemory _ => "OutOfMemory"
  | .loadFailed _ => "LoadFailed"
  | .callFailed _ => "Runtime"
  | .noLayout _ | .notInitialized _ => "NotInitialized"
  | .missingArguments => "MissingKernelArgs"
  | .bothArgumentForms | .invalidLaunch _ => "InvalidLaunchConfig"
  | .invalidMetadata => "Metadata"
  | .capacityOverflow => "panic"

def message : LoadError → String
  | .invalidValue cause => s!"invalid value: {cause.message}"
  | .fileNotFound path reason => s!"code object file {path} could not be read: {reason}"
  | .malformedObject cause => s!"malformed code object: {cause.message}"
  | .unresolvedSymbol name => s!"undefined symbol `{name}` has no definition in the host image"
  | .hostImageUnavailable path reason => s!"host image {path} unavailable: {reason}"
  | .symbolNotFound name => s!"symbol `{name}` not found in module"
  | .symbolQuery name cause => s!"symbol `{name}` could not be queried: {cause.message}"
  | .noCurrentDevice => "no current device bound to this thread"
  | .outOfMemory reason => s!"out of memory: {reason}"
  | .loadFailed cause => s!"code object load failed: {cause.message}"
  | .callFailed cause => s!"runtime operation failed: {cause.message}"
  | .noLayout kernel => s!"not initialized: no argument layout known for kernel `{kernel}`"
  | .notInitialized reason => s!"not initialized: {reason}"
  | .missingArguments => "no kernel arguments supplied"
  | .bothArgumentForms => "invalid launch configuration: "
      ++ "structured arguments and an extra buffer are mutually exclusive"
  | .invalidLaunch reason => s!"invalid launch configuration: {reason}"
  | .invalidMetadata => "invalid kernel metadata"
  | .capacityOverflow => "capacity overflow"

/-- The class of a failure. A panic has none. -/
def kind? : LoadError → Option ErrorKind
  | .invalidValue _ | .missingArguments | .bothArgumentForms | .invalidLaunch _
  | .invalidMetadata => some .invalidValue
  | .fileNotFound _ _ | .symbolNotFound _ | .symbolQuery _ _ => some .notFound
  | .noCurrentDevice => some .invalidContext
  | .outOfMemory _ => some .outOfMemory
  | .malformedObject _ | .unresolvedSymbol _ | .hostImageUnavailable _ _ | .loadFailed _
  | .callFailed _ => some .loadFailure
  | .noLayout _ | .notInitialized _ => some .notInitialized
  | .capacityOverflow => none

end LoadError

end DeviceCode
