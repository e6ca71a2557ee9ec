import DeviceCode.Elf.Format
import DeviceCode.Text.Utf8

/-!
# Assembling small objects

A `Draft` says what a 64-bit little-endian object is to hold; `Draft.encode` lays it out. The
sections are, in this order: the null section, `.text`, the dynamic symbols with their names, the
static symbols with their names, the section names, and the extra sections. Either pair of symbol
sections is left out when it would be empty. The section header table comes after the data or, on
request, right after the file header.

Defined symbols belong to `.text`. Every table and section starts at a multiple of eight.
-/

namespace DeviceCode.Elf

/-- A symbol to be written. -/
structure DraftSymbol where
  name : String
  value : UInt64
  size : UInt64
  /-- The kind's code: 0 untyped, 1 object, 2 function. -/
  kind : UInt8
  isDefined : Bool
  deriving DecidableEq, Repr

/-- An extra section to be written. -/
inductive DraftSection where
  /-- Plain data. -/
  | data (name : String) (bytes : Bytes)
  /-- Room that takes no bytes in the file. -/
  | room (name : String) (size : UInt64)
  deriving DecidableEq, Repr

/-- What an object is to hold. -/
structure Draft where
  kind : UInt16 := Header.positionIndependentKind
  machine : UInt16 := 224
  version : UInt32 := 1
  headersFirst : Bool := false
  withSections : Bool := true
  text : Bytes := []
  symbols : List DraftSymbol := []
  dynamic : List DraftSymbol := []
  extras : List DraftSection := []
  deriving DecidableEq, Repr

namespace DraftSymbol

/-- A defined function. -/
def function (name : String) (value size : UInt64) : DraftSymbol := ⟨name, value, size, 2, true⟩

/-- A defined data object. -/
def object (name : String) (value size : UInt64) : DraftSymbol := ⟨name, value, size, 1, true⟩

/-- A name that something else has to define. -/
def undefined (name : String) : DraftSymbol := ⟨name, 0, 0, 0, false⟩

end DraftSymbol

namespace Draft

/-- Add a static symbol. -/
def addStatic (d : Draft) (s : DraftSymbol) : Draft := { d with symbols := d.symbols ++ [s] }

/-- Add a dynamic symbol. -/
def addDynamic (d : Draft) (s : DraftSymbol) : Draft := { d with dynamic := d.dynamic ++ [s] }

/-- Add an extra section. -/
def addSection (d : Draft) (s : DraftSection) : Draft := { d with extras := d.extras ++ [s] }

/-- Drafts are written in this format only. -/
def format : Format := ⟨.bits64, .little⟩

/-- Where each name starts when the first free byte is `cursor`, and the bytes of the names, each
followed by a zero byte. An empty name takes no room and starts at zero. -/
def packNames (cursor : Nat) : List String → List Nat × Bytes
  | [] => ([], [])
  | name :: rest =>
    if name = "" then
      let (offsets, bytes) := packNames cursor rest
      (0 :: offsets, bytes)
    else
      let here := Text.utf8 name ++ [0]
      let (offsets, bytes) := packNames (cursor + here.length) rest
      (cursor :: offsets, here ++ bytes)

/-- The string table of these names. Its first byte is zero and serves every empty name. -/
def nameTable (names : List String) : Bytes := 0 :: (packNames 1 names).2

/-- Where each of these names starts in their string table. -/
def nameOffsets (names : List String) : List Nat := (packNames 1 names).1

/-- A section before it has a place in the file. -/
structure Planned where
  name : String
  kind : UInt32
  flags : UInt64
  bytes : Bytes
  /-- Size of a section that takes no bytes in the file. -/
  room : UInt64
  link : UInt32
  info : UInt32
  entrySize : UInt64
  deriving DecidableEq, Repr

/-- A section without links. -/
def plain (name : String) (kind : UInt32) (flags : UInt64) (bytes : Bytes) : Planned :=
  { name, kind, flags, bytes, room := 0, link := 0, info := 0, entrySize := 0 }

def Planned.size (p : Planned) : UInt64 :=
  if p.kind = SectionHeader.nobits then p.room else UInt64.ofNat p.bytes.length

/-- The entry of a symbol whose name starts at `offset`; binding is global. -/
def entryOf (s : DraftSymbol) (offset : Nat) : SymbolEntry where
  name := UInt32.ofNat offset
  info := 0x10 ||| s.kind
  other := 0
  sectionIndex := if s.isDefined then 1 else 0
  value := s.value
  size := s.size

/-- The null symbol, which every table starts with. -/
def nullEntry : SymbolEntry := ⟨0, 0, 0, 0, 0, 0⟩

/-- A symbol section and its name section; the first of the two is to be the `index`-th. Nothing
when there are no symbols. -/
def planSymbols (index : Nat) (name : String) (kind : UInt32) (namesName : String)
    (symbols : List DraftSymbol) : List Planned :=
  if symbols.isEmpty then []
  else
    let names := symbols.map (·.name)
    let entries := nullEntry :: List.zipWith entryOf symbols (nameOffsets names)
    [{ name, kind, flags := 2, bytes := entries.flatMap (·.encode format), room := 0,
       link := UInt32.ofNat (index + 1), info := 1,
       entrySize := UInt64.ofNat format.symbolEntrySize },
     plain namesName SectionHeader.strtab 2 (nameTable names)]

def planExtra : DraftSection → Planned
  | .data name bytes => plain name SectionHeader.progbits 2 bytes
  | .room name size => { plain name SectionHeader.nobits 3 [] with room := size }

variable (d : Draft)

/-- The sections before the section names. -/
def planLeading : List Planned :=
  let code := [plain "" 0 0 [], plain ".text" SectionHeader.progbits 6 d.text]
  let dynamic := planSymbols 2 ".dynsym" SectionHeader.dynsym ".dynstr" d.dynamic
  let static := planSymbols (2 + dynamic.length) ".symtab" SectionHeader.symtab ".strtab" d.symbols
  code ++ dynamic ++ static

/-- The names of all sections, in order. -/
def sectionNames : List String :=
  d.planLeading.map (·.name) ++ ".shstrtab" :: d.extras.map (planExtra · |>.name)

/-- All sections, in order. -/
def plan : List Planned :=
  d.planLeading ++ plain ".shstrtab" SectionHeader.strtab 0 (nameTable d.sectionNames)
    :: d.extras.map planExtra

/-- Where each of these sections starts when the first free byte is `cursor`, and the first free
byte after them. -/
def place (cursor : Nat) : List Planned → List Nat × Nat
  | [] => ([], cursor)
  | p :: rest =>
    let start := alignUp cursor 8
    let stop := if p.kind = SectionHeader.nobits then start else start + p.bytes.length
    let (starts, last) := place stop rest
    (start :: starts, last)

/-- The data of the sections in file order, with zeros up to each start; `cursor` is the first free
byte. -/
def layOut (cursor : Nat) : List (Planned × Nat) → Bytes
  | [] => []
  | (p, start) :: rest =>
    let bytes := if p.kind = SectionHeader.nobits then [] else p.bytes
    Bytes.zeros (start - cursor) ++ bytes ++ layOut (start + bytes.length) rest

def headerOf (sectionOffset sectionCount nameSection : Nat) : Header where
  format := format
  identVersion := UInt8.ofNat d.version.toNat
  kind := d.kind
  machine := d.machine
  version := d.version
  entry := 0
  programOffset := 0
  sectionOffset := UInt64.ofNat sectionOffset
  flags := 0
  headerSize := UInt16.ofNat format.headerSize
  programEntrySize := 56
  programCount := 0
  sectionEntrySize :=
    if UInt16.ofNat sectionCount = 0 then 0 else UInt16.ofNat format.sectionEntrySize
  sectionCount := UInt16.ofNat sectionCount
  nameSection := UInt16.ofNat nameSection

def sectionHeaderOf (p : Planned) (name start : Nat) (align : UInt64) : SectionHeader where
  name := UInt32.ofNat name
  kind := p.kind
  flags := p.flags
  address := 0
  offset := UInt64.ofNat start
  size := p.size
  link := p.link
  info := p.info
  align := align
  entrySize := p.entrySize

/-- The object file that a draft describes. -/
def encode : Bytes :=
  if !d.withSections then (d.headerOf 0 0 0).encode
  else
    let sections := d.plan
    let tableSize := format.sectionEntrySize * sections.length
    let dataStart := format.headerSize + if d.headersFirst then tableSize else 0
    let (starts, dataEnd) := place dataStart sections.tail
    let tableStart := if d.headersFirst then format.headerSize else alignUp dataEnd 8
    let data := layOut dataStart (sections.tail.zip starts)
    let placed := (sections.zip (nameOffsets d.sectionNames)).zip (0 :: starts)
    let table := placed.zipIdx.flatMap fun (((p, name), start), index) =>
      (sectionHeaderOf p name start (if index = 0 then 0 else 8)).encode format
    let header := (d.headerOf tableStart sections.length d.planLeading.length).encode
    if d.headersFirst then header ++ table ++ data
    else header ++ data ++ Bytes.zeros (tableStart - dataEnd) ++ table

end Draft

end DeviceCode.Elf
