import DeviceCode.Pattern.Compilable
import DeviceCode.Text.BytePlace
import DeviceCode.Text.Number
import DeviceCode.Trace.Event

/-!
# Directives

A directive says how much detail is let through, and from where: `target[span{field=value}]=level`.
Each part may be missing, but brackets need to be closed and nothing may stand between them and the
equals sign. A text without brackets and equals sign is a level if it can be read as one and a
target otherwise. A target or a span alone lets everything through.

The marks that end a part are looked for in the text without the blanks at its ends, but the parts
are cut out of the whole text, at the byte places found. So a blank in front shifts every part, and
a blank at the end belongs to the last one.
-/

namespace DeviceCode.Trace

/-- Reads a level by name or by rank; `some none` is the level that lets nothing through. -/
def filterLevel? (cs : List Char) : Option (Option Level) :=
  match Text.numeral? 10 cs with
  | some 0 => some none
  | some n => (Level.all.find? (·.rank == n)).map some
  | none =>
    if Text.sameLetters (String.ofList cs) "off" then some none
    else (Level.ofName? (String.ofList cs)).map some

/-- Reads the level behind an equals sign; everything is let through when nothing stands there. -/
def levelAfter? (cs : List Char) : Option (Option Level) :=
  if cs = [] then some (some .trace) else filterLevel? cs

/-- A field that a span has to have, with the given value if there is one. -/
structure FieldCondition where
  name : List Char
  value : Option (List Char)
  deriving DecidableEq, Repr

/-- The value of a field is a number or a pattern; whatever follows a second equals sign is left
out. -/
def FieldCondition.parse? (cs : List Char) : Option FieldCondition :=
  let name := cs.takeWhile (· ≠ '=')
  match cs.dropWhile (· ≠ '=') with
  | [] => if name = [] then none else some ⟨name, none⟩
  | _ :: rest =>
    let value := rest.takeWhile (· ≠ '=')
    if Text.isNumber value || Pattern.isCompilable value then some ⟨name, some value⟩ else none

/-- What one directive lets through. -/
structure Directive where
  /-- The target that it speaks of, if not all. -/
  target : Option (List Char) := none
  /-- The name of the span that it speaks of, if not all. -/
  span : Option (List Char) := none
  field : Option FieldCondition := none
  /-- The most detailed level let through; none at all when absent. -/
  level : Option Level
  deriving DecidableEq, Repr

namespace Directive

/-- A target starts with a letter or a number of any script, or with one of three marks. -/
def startsTarget (c : Char) : Bool :=
  Text.isAlphanumeric c || c == '-' || c == ':' || c == '_'

variable (text : List Char)

/-- Reads what follows the closing bracket: nothing, or an equals sign and a level. The characters
`cs` were found at `place`. -/
def ending? (place : Nat) (cs : List Char) : Option (Option Level) :=
  match cs with
  | [] => some (some .trace)
  | '=' :: _ => do
    let (_, level) ← Text.splitBytes? (place + 1) text
    levelAfter? level
  | _ => none

/-- Reads what follows the opening brace up to the closing bracket, then the ending. -/
def fieldPart? (place : Nat) (cs : List Char) : Option (FieldCondition × Option Level) :=
  let body := cs.takeWhile (· ≠ '\x7d')
  let stop := place + Text.byteCount body
  match cs.dropWhile (· ≠ '\x7d') with
  | '\x7d' :: ']' :: rest => do
    let field ← FieldCondition.parse? (← Text.between? text place stop)
    return (field, ← ending? text (stop + 2) rest)
  | _ => none

/-- Reads what follows the opening bracket: the name of the span and perhaps a field. -/
def spanPart? (target : Option (List Char)) (place : Nat) (cs : List Char) : Option Directive :=
  let body := cs.takeWhile fun c => c ≠ ']' ∧ c ≠ '\x7b'
  let stop := place + Text.byteCount body
  match cs.dropWhile fun c => c ≠ ']' ∧ c ≠ '\x7b' with
  | ']' :: rest => do
    let span ← Text.between? text place stop
    return { target, span := some span, level := ← ending? text (stop + 1) rest }
  | '\x7b' :: rest => do
    let span ← Text.between? text place stop
    let (field, level) ← fieldPart? text (stop + 1) rest
    return { target, span := if span = [] then none else some span, field := some field, level }
  | _ => none

/-- Reads a directive. -/
def parse? : Option Directive :=
  let cs := Text.trimChars text
  let body := cs.takeWhile fun c => c ≠ '=' ∧ c ≠ '['
  let stop := Text.byteCount body
  if body.head?.any (!startsTarget ·) then none
  else
    match body, cs.dropWhile fun c => c ≠ '=' ∧ c ≠ '[' with
    | [], '[' :: rest => spanPart? text none 1 rest
    | [], _ => none
    | _, [] =>
      match filterLevel? text with
      | some level => some { level }
      | none => some { target := some text, level := some .trace }
    | _, '[' :: rest => do
      let (target, _) ← Text.splitBytes? stop text
      spanPart? text (some target) (stop + 1) rest
    | _, _ => do
      let (target, _) ← Text.splitBytes? stop text
      let (_, level) ← Text.splitBytes? (stop + 1) text
      return { target := some target, level := ← levelAfter? level }

end Directive

end DeviceCode.Trace
