/-!
# Byte places

A place in a text is the number of UTF-8 bytes in front of it. Cutting fails at a place inside a
character or behind the end.
-/

namespace DeviceCode.Text

/-- How many bytes these characters take. -/
def byteCount : List Char → Nat
  | [] => 0
  | c :: cs => c.utf8Size + byteCount cs

/-- The characters in front of a place and those from it on. -/
def splitBytes? : Nat → List Char → Option (List Char × List Char)
  | 0, cs => some ([], cs)
  | _ + 1, [] => none
  | n + 1, c :: cs =>
    if n + 1 < c.utf8Size then none
    else (splitBytes? (n + 1 - c.utf8Size) cs).map fun (front, rest) => (c :: front, rest)

/-- The characters from one place up to another. -/
def between? (cs : List Char) (start stop : Nat) : Option (List Char) := do
  let (_, rest) ← splitBytes? start cs
  let (piece, _) ← splitBytes? (stop - start) rest
  return piece

end DeviceCode.Text
