import DeviceCode.Elf.Format
import DeviceCode.Elf.StringTable

/-!
# Symbols

A symbol table pairs the entries of one section with the string table it links to. An entry whose
name offset leads nowhere is unnamed: its name is the empty text.
-/

namespace DeviceCode.Elf

/-- What a symbol stands for. -/
inductive SymbolKind where
  | untyped
  | object
  | function
  | ofSection
  | ofFile
  | common
  | threadLocal
  | other (code : UInt8)
  deriving DecidableEq, Repr

def SymbolKind.name : SymbolKind → String
  | .untyped => "NoType"
  | .object => "Object"
  | .function => "Func"
  | .ofSection => "Section"
  | .ofFile => "File"
  | .common => "Common"
  | .threadLocal => "Tls"
  | .other code => s!"Other({code.toNat})"

/-- The kind with a given code. -/
def SymbolKind.ofCode (code : UInt8) : SymbolKind :=
  match code with
  | 0 => .untyped
  | 1 => .object
  | 2 => .function
  | 3 => .ofSection
  | 4 => .ofFile
  | 5 => .common
  | 6 => .threadLocal
  | c => .other c

/-- A symbol with its name resolved. -/
structure Symbol where
  /-- Empty when the symbol has no name. -/
  name : String
  value : UInt64
  size : UInt64
  /-- Index of the defining section; zero when undefined. -/
  sectionIndex : UInt16
  kind : SymbolKind
  binding : UInt8
  deriving DecidableEq, Repr

namespace Symbol

/-- No section of the object defines the symbol. -/
def isUndefined (s : Symbol) : Bool := s.sectionIndex == 0

def isNamed (s : Symbol) : Bool := s.name != ""

/-- A named symbol that the object itself defines. -/
def isDefinition (s : Symbol) : Bool := !s.isUndefined && s.isNamed

/-- Resolve the name of an entry and split its info byte. -/
def ofEntry (names : StringTable) (e : SymbolEntry) : Symbol where
  name := (names.nameAt? e.name.toNat).getD ""
  value := e.value
  size := e.size
  sectionIndex := e.sectionIndex
  kind := .ofCode (e.info &&& 0xf)
  binding := e.info >>> 4

end Symbol

/-- The symbols of one section, in table order. -/
structure SymbolTable where
  /-- The section that the table was read from. -/
  sectionIndex : Nat
  symbols : List Symbol
  deriving DecidableEq, Repr

namespace SymbolTable

/-- The first symbol with exactly this name. -/
def find? (t : SymbolTable) (name : String) : Option Symbol :=
  t.symbols.find? (·.name == name)

/-- The names that the object leaves for others to define, in table order. -/
def undefinedNames (t : SymbolTable) : List String :=
  (t.symbols.filter fun s => s.isUndefined && s.isNamed).map (·.name)

/-- The named symbols that the object defines, in table order. -/
def definitions (t : SymbolTable) : List Symbol :=
  t.symbols.filter Symbol.isDefinition

end SymbolTable

end DeviceCode.Elf
