/-!
# JSON text

`JsonText.parse` reads a text by the strict grammar: no blanks but space, tab and line ends, no
comments, no trailing commas, nothing after the value. It keeps what a later step may still judge: a
number stays the text it was written as, and a string whose escapes do not spell a sequence of
characters (`\u` escapes outside a surrogate pair) is kept as `none`, since such a string is wrong
only where its content is asked for.

The parser carries fuel; the length of the text is always enough, since each step takes at least one
character.
-/

namespace DeviceCode.JsonText

/-- A JSON value as written. -/
inductive Value where
  | null
  | bool (b : Bool)
  | number (text : List Char)
  | string (content : Option String)
  | array (items : List Value)
  | object (members : List (Option String × Value))

/-- What is left after a value was read off the front. -/
abbrev Parser (α : Type) := List Char → Option (α × List Char)

/-- The four blanks of JSON. -/
def isBlank (c : Char) : Bool := c == ' ' || c == '\t' || c == '\n' || c == '\r'

def skipBlanks (cs : List Char) : List Char := cs.dropWhile isBlank

/-- Take a fixed text off the front. -/
def expect : List Char → List Char → Option (List Char)
  | [], cs => some cs
  | e :: es, c :: cs => if e = c then expect es cs else none
  | _ :: _, [] => none

/-- A run of digits, possibly empty. -/
def takeDigits (cs : List Char) : List Char × List Char :=
  (cs.takeWhile Char.isDigit, cs.dropWhile Char.isDigit)

/-- A run of at least one digit. -/
def someDigits : Parser (List Char) := fun cs =>
  match takeDigits cs with
  | ([], _) => none
  | r => some r

/-- The digits before the point: a zero stands alone. -/
def integerPart : Parser (List Char)
  | '0' :: cs => if cs.head?.any Char.isDigit then none else some (['0'], cs)
  | cs => someDigits cs

/-- The point and the digits after it, if there is a point. -/
def fractionPart : Parser (List Char)
  | '.' :: cs => (someDigits cs).map fun (ds, rest) => ('.' :: ds, rest)
  | cs => some ([], cs)

/-- The sign of an exponent, if there is one. -/
def exponentSign : List Char → List Char × List Char
  | '+' :: cs => (['+'], cs)
  | '-' :: cs => (['-'], cs)
  | cs => ([], cs)

/-- The exponent, if there is one. -/
def exponentPart : Parser (List Char)
  | [] => some ([], [])
  | c :: cs =>
    if c = 'e' ∨ c = 'E' then
      let (sign, cs) := exponentSign cs
      (someDigits cs).map fun (ds, rest) => (c :: sign ++ ds, rest)
    else some ([], c :: cs)

/-- A number without its sign. -/
def unsignedNumber : Parser (List Char) := fun cs => do
  let (whole, cs) ← integerPart cs
  let (fraction, cs) ← fractionPart cs
  let (exponent, cs) ← exponentPart cs
  return (whole ++ fraction ++ exponent, cs)

/-- A number, as its text. -/
def number : Parser (List Char)
  | '-' :: cs => (unsignedNumber cs).map fun (text, rest) => ('-' :: text, rest)
  | cs => unsignedNumber cs

/-- The value of a hexadecimal digit. -/
def hexDigit? (c : Char) : Option Nat :=
  if '0' ≤ c ∧ c ≤ '9' then some (c.toNat - '0'.toNat)
  else if 'a' ≤ c ∧ c ≤ 'f' then some (c.toNat - 'a'.toNat + 10)
  else if 'A' ≤ c ∧ c ≤ 'F' then some (c.toNat - 'A'.toNat + 10)
  else none

/-- Four hexadecimal digits, as one 16-bit unit. -/
def unit : Parser Nat
  | a :: b :: c :: d :: cs => do
    let a ← hexDigit? a
    let b ← hexDigit? b
    let c ← hexDigit? c
    let d ← hexDigit? d
    return (((a * 16 + b) * 16 + c) * 16 + d, cs)
  | _ => none

/-- A piece of a string body: a character, or half of a surrogate pair. -/
inductive Piece where
  | char (c : Char)
  | high (n : Nat)
  | low (n : Nat)

/-- The piece that a 16-bit unit stands for. -/
def Piece.ofUnit (n : Nat) : Piece :=
  if 0xd800 ≤ n ∧ n < 0xdc00 then .high n
  else if 0xdc00 ≤ n ∧ n < 0xe000 then .low n
  else .char (Char.ofNat n)

/-- What follows a backslash. -/
def escape : Parser Piece
  | '"' :: cs => some (.char '"', cs)
  | '\\' :: cs => some (.char '\\', cs)
  | '/' :: cs => some (.char '/', cs)
  | 'b' :: cs => some (.char '\x08', cs)
  | 'f' :: cs => some (.char '\x0c', cs)
  | 'n' :: cs => some (.char '\n', cs)
  | 'r' :: cs => some (.char '\r', cs)
  | 't' :: cs => some (.char '\t', cs)
  | 'u' :: cs => (unit cs).map fun (n, rest) => (.ofUnit n, rest)
  | _ => none

/-- The body of a string up to its closing quote. Raw control characters are refused. -/
def pieces : Nat → Parser (List Piece)
  | 0, _ => none
  | _ + 1, [] => none
  | fuel + 1, c :: cs =>
    if c = '"' then some ([], cs)
    else if c = '\\' then do
      let (p, cs) ← escape cs
      let (ps, cs) ← pieces fuel cs
      return (p :: ps, cs)
    else if c.toNat < 0x20 then none
    else do
      let (ps, cs) ← pieces fuel cs
      return (.char c :: ps, cs)

/-- The characters that these pieces spell; none if half of a surrogate pair stands alone. -/
def joinPieces : List Piece → Option (List Char)
  | [] => some []
  | .char c :: ps => (joinPieces ps).map (c :: ·)
  | .high a :: .low b :: ps =>
    (joinPieces ps).map (Char.ofNat (0x10000 + (a - 0xd800) * 0x400 + (b - 0xdc00)) :: ·)
  | .high _ :: _ => none
  | .low _ :: _ => none

/-- A string after its opening quote. -/
def stringBody (fuel : Nat) : Parser (Option String) := fun cs =>
  (pieces fuel cs).map fun (ps, rest) => ((joinPieces ps).map String.ofList, rest)

mutual

/-- One value, with blanks before it skipped. -/
def value : Nat → Parser Value
  | 0, _ => none
  | fuel + 1, cs =>
    match skipBlanks cs with
    | [] => none
    | c :: cs =>
      if c = '"' then (stringBody fuel cs).map fun (s, rest) => (.string s, rest)
      else if c = '[' then
        match skipBlanks cs with
        | ']' :: rest => some (.array [], rest)
        | cs => (items fuel cs).map fun (vs, rest) => (.array vs, rest)
      else if c = '{' then
        match skipBlanks cs with
        | '}' :: rest => some (.object [], rest)
        | cs => (members fuel cs).map fun (ms, rest) => (.object ms, rest)
      else if c = 'n' then (expect ['u', 'l', 'l'] cs).map fun rest => (.null, rest)
      else if c = 't' then (expect ['r', 'u', 'e'] cs).map fun rest => (.bool true, rest)
      else if c = 'f' then (expect ['a', 'l', 's', 'e'] cs).map fun rest => (.bool false, rest)
      else (number (c :: cs)).map fun (text, rest) => (.number text, rest)

/-- The items of an array that has one at least, and the closing bracket. -/
def items : Nat → Parser (List Value)
  | 0, _ => none
  | fuel + 1, cs => do
    let (v, cs) ← value fuel cs
    match skipBlanks cs with
    | ',' :: cs =>
      let (vs, cs) ← items fuel cs
      return (v :: vs, cs)
    | ']' :: cs => return ([v], cs)
    | _ => none

/-- The members of an object that has one at least, and the closing brace. -/
def members : Nat → Parser (List (Option String × Value))
  | 0, _ => none
  | fuel + 1, cs =>
    match skipBlanks cs with
    | '"' :: cs => do
      let (key, cs) ← stringBody fuel cs
      match skipBlanks cs with
      | ':' :: cs =>
        let (v, cs) ← value fuel cs
        match skipBlanks cs with
        | ',' :: cs =>
          let (ms, cs) ← members fuel cs
          return ((key, v) :: ms, cs)
        | '}' :: cs => return ([(key, v)], cs)
        | _ => none
      | _ => none
    | _ => none

end

/-- Read a whole text as one value. -/
def parse (text : String) : Option Value :=
  let cs := text.toList
  match value (2 * cs.length + 1) cs with
  | some (v, rest) => if skipBlanks rest = [] then some v else none
  | none => none

/-! ## Writing -/

/-- The escape of a character inside a string: a quote, a backslash and the control characters are
escaped, everything else stands for itself. -/
def escapeChar (c : Char) : List Char :=
  if c = '"' then ['\\', '"']
  else if c = '\\' then ['\\', '\\']
  else if c = '\x08' then ['\\', 'b']
  else if c = '\x0c' then ['\\', 'f']
  else if c = '\n' then ['\\', 'n']
  else if c = '\r' then ['\\', 'r']
  else if c = '\t' then ['\\', 't']
  else if c.toNat < 0x20 then
    ['\\', 'u', '0', '0', Nat.digitChar (c.toNat / 16), Nat.digitChar (c.toNat % 16)]
  else [c]

/-- A text as a JSON string. -/
def quoteChars (s : String) : List Char := '"' :: s.toList.flatMap escapeChar ++ ['"']

/-- A text as a JSON string. -/
def quote (s : String) : String := String.ofList (quoteChars s)

end DeviceCode.JsonText
