import DeviceCode.Reader

/-!
# Records of an object file

An object file holds three kinds of fixed-size record: one file header, the section headers and the
symbols. Each comes in a 32-bit and a 64-bit form and in either byte order, which the first bytes of
the file announce (`Format`). Each decoder takes the fields off the front of a byte string one after
the other; the `encode` functions put them back in the same order.

The 32-bit symbol keeps its value and size before its info byte, the 64-bit one after its section
index; otherwise the two forms differ only in the width of a word.
-/

namespace DeviceCode.Elf

/-- How wide an address is. -/
inductive WordSize where
  | bits32
  | bits64
  deriving DecidableEq, Repr

/-- What the identification bytes say about all records that follow. -/
structure Format where
  wordSize : WordSize
  order : ByteOrder
  deriving DecidableEq, Repr

namespace Format

/-- Bytes in an address, an offset or a size. -/
def wordBytes (f : Format) : Nat :=
  match f.wordSize with
  | .bits32 => 4
  | .bits64 => 8

/-- Bytes in a file header, its identification bytes included. -/
def headerSize (f : Format) : Nat :=
  match f.wordSize with
  | .bits32 => 52
  | .bits64 => 64

/-- Bytes in one section header. -/
def sectionEntrySize (f : Format) : Nat :=
  match f.wordSize with
  | .bits32 => 40
  | .bits64 => 64

/-- Bytes in one symbol. -/
def symbolEntrySize (f : Format) : Nat :=
  match f.wordSize with
  | .bits32 => 16
  | .bits64 => 24

end Format

/-- An address-sized field, extended with zeros when the object is a 32-bit one. -/
def Format.word (f : Format) : Reader UInt64 := UInt64.ofNat <$> Reader.number f.order f.wordBytes

/-- An address-sized field; a 32-bit object keeps the low half. -/
def Format.putWord (f : Format) (n : UInt64) : Bytes := Bytes.ofNat f.order f.wordBytes n.toNat

/-- The file header. -/
structure Header where
  format : Format
  /-- The version marker among the identification bytes. -/
  identVersion : UInt8
  kind : UInt16
  machine : UInt16
  version : UInt32
  entry : UInt64
  programOffset : UInt64
  sectionOffset : UInt64
  flags : UInt32
  headerSize : UInt16
  programEntrySize : UInt16
  programCount : UInt16
  sectionEntrySize : UInt16
  sectionCount : UInt16
  /-- Index of the section that holds the section names. -/
  nameSection : UInt16
  deriving DecidableEq, Repr

namespace Header

/-- The four bytes that every object starts with. -/
def magic : Bytes := [0x7f, 0x45, 0x4c, 0x46]

/-- A position-independent object. -/
def positionIndependentKind : UInt16 := 3

def wordSizeOfCode? (code : UInt8) : Option WordSize :=
  if code = 1 then some .bits32 else if code = 2 then some .bits64 else none

def orderOfCode? (code : UInt8) : Option ByteOrder :=
  if code = 1 then some .little else if code = 2 then some .big else none

/-- Word size, byte order and version from the sixteen identification bytes. -/
def ident? (bs : Bytes) : Option (Format × UInt8) :=
  if bs.length < 16 ∨ bs.take 4 ≠ magic then none
  else do
    let wordSize ← wordSizeOfCode? (bs.getD 4 0)
    let order ← orderOfCode? (bs.getD 5 0)
    pure (⟨wordSize, order⟩, bs.getD 6 0)

/-- The fields that follow the identification bytes. -/
def fields (f : Format) (identVersion : UInt8) : Reader Header := do
  let kind ← Reader.half f.order
  let machine ← Reader.half f.order
  let version ← Reader.full f.order
  let entry ← f.word
  let programOffset ← f.word
  let sectionOffset ← f.word
  let flags ← Reader.full f.order
  let headerSize ← Reader.half f.order
  let programEntrySize ← Reader.half f.order
  let programCount ← Reader.half f.order
  let sectionEntrySize ← Reader.half f.order
  let sectionCount ← Reader.half f.order
  let nameSection ← Reader.half f.order
  return { format := f, identVersion, kind, machine, version, entry, programOffset,
           sectionOffset, flags, headerSize, programEntrySize, programCount,
           sectionEntrySize, sectionCount, nameSection }

/-- The header at the front of an image. -/
def decode? (bs : Bytes) : Option Header := do
  let (f, version) ← ident? bs
  let (header, _) ← (fields f version).run (bs.drop 16)
  return header

/-- The identification bytes of a header. -/
def encodeIdent (h : Header) : Bytes :=
  magic ++ [match h.format.wordSize with | .bits32 => 1 | .bits64 => 2,
            match h.format.order with | .little => 1 | .big => 2,
            h.identVersion] ++ Bytes.zeros 9

def encode (h : Header) : Bytes :=
  let f := h.format
  let half := Bytes.ofHalf f.order
  let full := Bytes.ofFull f.order
  h.encodeIdent ++ half h.kind ++ half h.machine ++ full h.version
    ++ f.putWord h.entry ++ f.putWord h.programOffset ++ f.putWord h.sectionOffset
    ++ full h.flags ++ half h.headerSize ++ half h.programEntrySize ++ half h.programCount
    ++ half h.sectionEntrySize ++ half h.sectionCount ++ half h.nameSection

end Header

/-- One entry of the section header table. -/
structure SectionHeader where
  /-- Where the name starts in the section name table. -/
  name : UInt32
  kind : UInt32
  flags : UInt64
  address : UInt64
  offset : UInt64
  size : UInt64
  link : UInt32
  info : UInt32
  align : UInt64
  entrySize : UInt64
  deriving DecidableEq, Repr

namespace SectionHeader

/-- Plain data. -/
def progbits : UInt32 := 1

/-- A static symbol table. -/
def symtab : UInt32 := 2

/-- A string table. -/
def strtab : UInt32 := 3

/-- A section that takes no room in the file. -/
def nobits : UInt32 := 8

/-- A dynamic symbol table. -/
def dynsym : UInt32 := 11

/-- Whether the section takes up bytes of the file. -/
def hasFileData (s : SectionHeader) : Bool := s.kind != nobits

def decode (f : Format) : Reader SectionHeader := do
  let name ← Reader.full f.order
  let kind ← Reader.full f.order
  let flags ← f.word
  let address ← f.word
  let offset ← f.word
  let size ← f.word
  let link ← Reader.full f.order
  let info ← Reader.full f.order
  let align ← f.word
  let entrySize ← f.word
  return { name, kind, flags, address, offset, size, link, info, align, entrySize }

def encode (s : SectionHeader) (f : Format) : Bytes :=
  let full := Bytes.ofFull f.order
  full s.name ++ full s.kind ++ f.putWord s.flags ++ f.putWord s.address ++ f.putWord s.offset
    ++ f.putWord s.size ++ full s.link ++ full s.info ++ f.putWord s.align ++ f.putWord s.entrySize

end SectionHeader

/-- One entry of a symbol table. -/
structure SymbolEntry where
  /-- Where the name starts in the string table. -/
  name : UInt32
  /-- Binding in the high four bits, kind in the low four. -/
  info : UInt8
  other : UInt8
  /-- Index of the defining section; zero when undefined. -/
  sectionIndex : UInt16
  value : UInt64
  size : UInt64
  deriving DecidableEq, Repr

namespace SymbolEntry

def decode (f : Format) : Reader SymbolEntry := do
  let name ← Reader.full f.order
  match f.wordSize with
  | .bits32 =>
    let value ← f.word
    let size ← f.word
    let info ← Reader.byte
    let other ← Reader.byte
    let sectionIndex ← Reader.half f.order
    return { name, info, other, sectionIndex, value, size }
  | .bits64 =>
    let info ← Reader.byte
    let other ← Reader.byte
    let sectionIndex ← Reader.half f.order
    let value ← f.word
    let size ← f.word
    return { name, info, other, sectionIndex, value, size }

def encode (s : SymbolEntry) (f : Format) : Bytes :=
  match f.wordSize with
  | .bits32 =>
    Bytes.ofFull f.order s.name ++ f.putWord s.value ++ f.putWord s.size ++ [s.info, s.other]
      ++ Bytes.ofHalf f.order s.sectionIndex
  | .bits64 =>
    Bytes.ofFull f.order s.name ++ [s.info, s.other] ++ Bytes.ofHalf f.order s.sectionIndex
      ++ f.putWord s.value ++ f.putWord s.size

end SymbolEntry

end DeviceCode.Elf
