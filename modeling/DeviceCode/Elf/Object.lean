import DeviceCode.Elf.Error
import DeviceCode.Elf.Symbol

/-!
# Object files

`Object.parse` checks the header, the version marker and the bounds of the section header table.
Symbol tables are decoded when they are asked for, and only after their own range and that of the
string table they link to have been found inside the image.

`Object.extent` is how many bytes must be kept when the image is copied elsewhere: the end of the
section header table or, if a section starts after the table does, the end of the last such section.
-/

namespace DeviceCode.Elf

/-- An object file whose section headers have been read. -/
structure Object where
  bytes : Bytes
  header : Header
  sections : List SectionHeader
  /-- The section names, if the name section can be read. -/
  names : Option StringTable
  deriving DecidableEq, Repr

namespace Object

/-- The section header table of an image. An object may carry none. -/
def readSections (bs : Bytes) (h : Header) : Except Error (List SectionHeader) :=
  let expected := h.format.sectionEntrySize
  let offset := h.sectionOffset.toNat
  let size := h.sectionEntrySize.toNat * h.sectionCount.toNat
  if h.sectionCount = 0 ∨ h.sectionOffset = 0 then .ok []
  else if h.sectionEntrySize.toNat ≠ expected then
    .error (.badSectionEntrySize h.sectionEntrySize.toNat expected)
  else if ¬ Bytes.Holds bs offset size then
    .error (.truncated "section header table" offset size bs.length)
  else
    match (Reader.times h.sectionCount.toNat (SectionHeader.decode h.format)).run
        (bs.drop offset) with
    | some (sections, _) => .ok sections
    | none => .error .undecodable

/-- The string table in a section, if the section has file data inside the image and all its names
can be read. -/
def readNames? (bs : Bytes) (s : SectionHeader) : Option StringTable :=
  if s.hasFileData ∧ Bytes.Holds bs s.offset.toNat s.size.toNat then
    StringTable.ofBytes? (Bytes.slice bs s.offset.toNat s.size.toNat)
  else none

/-- Read an image as an object file. -/
def parse (bs : Bytes) : Except Error Object :=
  match Header.decode? bs with
  | none => .error .undecodable
  | some h =>
    if h.version.toNat ≠ currentVersion then .error (.unsupportedVersion h.version.toNat)
    else if h.identVersion.toNat ≠ currentVersion then
      .error (.unsupportedVersion h.identVersion.toNat)
    else
      match readSections bs h with
      | .error e => .error e
      | .ok sections =>
        .ok { bytes := bs
              header := h
              sections
              names := sections[h.nameSection.toNat]?.bind (readNames? bs) }

variable (o : Object)

/-- Whether the object may be mapped at any address. -/
def isPositionIndependent : Bool := o.header.kind == Header.positionIndependentKind

/-- The name of a section, if the name table gives one. -/
def sectionName? (s : SectionHeader) : Option String :=
  o.names.bind (·.nameAt? s.name.toNat)

/-- Index of the first section of a kind. -/
def findKind? (kind : UInt32) : Option Nat := o.sections.findIdx? (·.kind == kind)

/-- Index of the first section with a name. -/
def findNamed? (name : String) : Option Nat :=
  o.sections.findIdx? fun s => o.sectionName? s == some name

/-- The entries of a symbol section. They start inside the image: even a table without entries is
refused when the image ends where it would start. -/
def readEntries? (s : SectionHeader) : Option (List SymbolEntry) :=
  let format := o.header.format
  let start := s.offset.toNat
  if start < o.bytes.length then
    ((Reader.times (s.size.toNat / format.symbolEntrySize) (SymbolEntry.decode format)).run
      (o.bytes.drop start)).map (·.1)
  else none

/-- The symbol table in a given section, which is the `index`-th. -/
def readSymbols (index : Nat) (s : SectionHeader) : Except Error SymbolTable :=
  let entrySize := o.header.format.symbolEntrySize
  let length := o.bytes.length
  if s.entrySize ≠ 0 ∧ s.entrySize.toNat ≠ entrySize then
    .error (.badSymbolEntrySize index s.entrySize.toNat entrySize)
  else if ¬ Bytes.Holds o.bytes s.offset.toNat s.size.toNat then
    .error (.truncated "symbol table" s.offset.toNat s.size.toNat length)
  else
    match o.sections[s.link.toNat]?.filter SectionHeader.hasFileData with
    | none => .error (.invalidLink index s.link.toNat)
    | some linked =>
      if ¬ Bytes.Holds o.bytes linked.offset.toNat linked.size.toNat then
        .error (.truncated "string table" linked.offset.toNat linked.size.toNat length)
      else
        match o.readEntries? s, StringTable.ofBytes?
            (Bytes.slice o.bytes linked.offset.toNat linked.size.toNat) with
        | some entries, some names =>
          .ok { sectionIndex := index, symbols := entries.map (Symbol.ofEntry names) }
        | _, _ => .error .undecodable

/-- The symbol table in section `index`; there is no answer when there is no such section. -/
def symbolTableAt (index : Nat) : Option (Except Error SymbolTable) :=
  o.sections[index]?.map (o.readSymbols index)

/-- The first symbol table of a kind of section, if there is one. -/
def firstTable (kind : UInt32) : Except Error (Option SymbolTable) :=
  match (o.findKind? kind).bind o.symbolTableAt with
  | none => .ok none
  | some table => table.map some

/-- The static symbol table. -/
def symbolTable : Except Error (Option SymbolTable) := o.firstTable SectionHeader.symtab

/-- The dynamic symbol table. -/
def dynamicSymbolTable : Except Error (Option SymbolTable) := o.firstTable SectionHeader.dynsym

/-- The names that the dynamic symbol table leaves undefined, in table order. -/
def undefinedGlobals : Except Error (List String) :=
  o.dynamicSymbolTable.map fun table => (table.map SymbolTable.undefinedNames).getD []

/-- The size in the first table among these sections that knows the name. A table that cannot be
read ends the search. -/
def sizeIn (name : String) : List (SectionHeader × Nat) → Except Error Nat
  | [] => .ok 0
  | (s, index) :: rest =>
    match o.readSymbols index s with
    | .error e => .error e
    | .ok table =>
      match table.find? name with
      | some symbol => .ok symbol.size.toNat
      | none => sizeIn name rest

/-- The declared size of the first symbol of this name in the static symbol tables; zero when there
is none. -/
def symbolSize (name : String) : Except Error Nat :=
  o.sizeIn name (o.sections.zipIdx.filter (·.1.kind == SectionHeader.symtab))

/-- One section's part in the extent: a section that starts later than all before it moves the end
to its own. The state is the latest start so far and the end that goes with it. -/
def extendOver (state : Nat × Nat) (s : SectionHeader) : Nat × Nat :=
  let start := s.offset.toNat
  if start > state.1 then
    (start, if s.hasFileData then saturatingAdd start s.size.toNat else start)
  else state

/-- Bytes that the object takes up, counted from the start of the image. -/
def extent : Nat :=
  let start := o.header.sectionOffset.toNat
  let tableEnd := saturatingAdd start
    (o.header.sectionEntrySize.toNat * o.header.sectionCount.toNat)
  (o.sections.foldl extendOver (start, tableEnd)).2

end Object

end DeviceCode.Elf
