import DeviceCode.Assoc
import DeviceCode.Elf.Object
import DeviceCode.Error
import DeviceCode.Host.LoadBias
import DeviceCode.Trace.Event

/-!
# Symbols of the host program

The host image is indexed by symbol name. The static symbol table comes before the dynamic one, and
within a table the first definition of a name wins. Addresses are symbol values plus the load bias,
modulo `2 ^ 64`.
-/

namespace DeviceCode.Host

/-- A symbol that the host program defines. -/
structure Symbol where
  address : UInt64
  size : UInt64
  deriving DecidableEq, Repr

/-- The defined symbols of a host program. -/
structure Image where
  path : String
  loadBias : UInt64
  symbols : Assoc String Symbol
  deriving DecidableEq, Repr

namespace Image

/-- Add the definitions of one table; names that are known already keep their first definition. -/
def collect (loadBias : UInt64) (known : Assoc String Symbol) (table : Elf.SymbolTable) :
    Assoc String Symbol :=
  table.definitions.foldl
    (fun known s => known.putNew s.name ⟨loadBias + s.value, s.size⟩) known

/-- Index an object by the symbols that it defines. -/
def index (path : String) (o : Elf.Object) (loadBias : UInt64) : Except Elf.Error Image := do
  let static ← o.symbolTable
  let dynamic ← o.dynamicSymbolTable
  let tables := static.toList ++ dynamic.toList
  return { path, loadBias, symbols := tables.foldl (collect loadBias) {} }

/-- Read an image as an object file; a failure is put down to the host image. -/
def parse (path : String) (bytes : Bytes) : Except LoadError Elf.Object :=
  match Elf.Object.parse bytes with
  | .ok o => .ok o
  | .error e => .error (.hostImageUnavailable path e.message)

/-- Index an object; a symbol table that cannot be read makes the object malformed. -/
def indexed (path : String) (o : Elf.Object) (loadBias : UInt64) : Except LoadError Image :=
  match index path o loadBias with
  | .ok image => .ok image
  | .error e => .error (.malformedObject e)

/-- Index an image held in memory. -/
def ofBytes (path : String) (bytes : Bytes) (loadBias : UInt64) : Except LoadError Image := do
  indexed path (← parse path bytes) loadBias

/-- Read and index the host image that the settings name. -/
def load (sys : System) (settings : LoaderSettings) : Except LoadError Image :=
  let path := settings.hostImage
  match sys.files.read path with
  | .error fault => .error (.hostImageUnavailable path fault.message)
  | .ok bytes => do
    let o ← parse path bytes
    indexed path o (Host.loadBias sys settings o.isPositionIndependent)

/-- The symbol of a given name. -/
def lookup? (image : Image) (name : String) : Option Symbol := image.symbols.get? name

/-- The event that reports an indexed image. -/
def indexedEvent (image : Image) : Trace.Event where
  level := .debug
  message := "host_image_indexed"
  fields := [("path", image.path), Trace.Event.count "symbols" image.symbols.size,
    Trace.Event.count "load_bias" image.loadBias.toNat]

end Image

end DeviceCode.Host
