import DeviceCode.Text.Utf8

/-!
# String tables

A string table is a run of names, each ended by a zero byte; the last one may lack its end. A name
is asked for by the offset of its first byte, and an offset into the middle of a name gives the rest
of that name.

A table is accepted only if all its names are UTF-8. A zero byte is a character of its own in UTF-8,
so that is the same as the whole table being UTF-8.
-/

namespace DeviceCode.Elf

/-- The bytes of an accepted string table. -/
structure StringTable where
  bytes : Bytes
  deriving DecidableEq, Repr

namespace StringTable

/-- The table with these bytes, if every name in it is UTF-8. -/
def ofBytes? (bs : Bytes) : Option StringTable :=
  (Text.ofUtf8? bs).map fun _ => ⟨bs⟩

/-- The name that starts at `offset`. There is none past the table or inside a character; the end of
the table itself still belongs to a last name without a zero byte. -/
def nameAt? (t : StringTable) (offset : Nat) : Option String :=
  if offset < t.bytes.length then
    Text.ofUtf8? ((t.bytes.drop offset).takeWhile (· ≠ 0))
  else if offset = t.bytes.length ∧ t.bytes.getLast?.any (· ≠ 0) then some ""
  else none

end StringTable

end DeviceCode.Elf
