/-!
# Shortest decimals

A binary floating-point number with 53 significant bits stands for every real that is nearer to it
than to its neighbours, the ends included when its last bit is zero. Its shortest decimal is the one
with the fewest digits among those; of several with that many digits, the nearest to the number, and
of two that are equally near, the larger one.

The search tries one digit, then two, and so on. For each count it looks at the two points of that
decimal grid around the number: if any point of the grid reads back as the number, one of these two
does. Seventeen digits always suffice.

Numbers here are fractions `num / den` of natural numbers, so that every comparison is exact.
-/

namespace DeviceCode.Text

/-- The positive number `mantissa * 2 ^ up / 2 ^ down`, where the mantissa has 53 bits. -/
structure Binary where
  mantissa : Nat
  up : Nat
  down : Nat
  deriving DecidableEq, Repr

namespace Binary

/-- The number nearest to `n / 2 ^ shift`; a tie goes to the even mantissa. -/
def ofScaled (n shift : Nat) : Binary :=
  let bits := n.log2 + 1
  if bits ≤ 53 then ⟨n <<< (53 - bits), 0, 53 - bits + shift⟩
  else
    let extra := bits - 53
    let m := n >>> extra
    let low := n - (m <<< extra)
    let half := 1 <<< (extra - 1)
    let rounded := if low > half ∨ (low = half ∧ m % 2 = 1) then m + 1 else m
    if rounded = 1 <<< 53 then ⟨1 <<< 52, extra + 1, shift⟩ else ⟨rounded, extra, shift⟩

variable (b : Binary)

/-- Numerator of the number, in quarters of its last place. -/
def quarters : Nat := 4 * b.mantissa

/-- Whether `num / den` reads back as the number. -/
def readsBack (num den : Nat) : Bool :=
  let low := b.quarters - if b.mantissa = 1 <<< 52 then 1 else 2
  let high := b.quarters + 2
  let left := (num * 4) <<< b.down
  let lowEnd := (low * den) <<< b.up
  let highEnd := (high * den) <<< b.up
  if b.mantissa % 2 = 0 then lowEnd ≤ left && left ≤ highEnd else lowEnd < left && left < highEnd

/-- `num / den` of the number itself. -/
def fraction : Nat × Nat := (b.mantissa <<< b.up, 1 <<< b.down)

/-- The decimal exponent of the first digit, as the number of digits before the point; a number
below one has none, and as many zeros after the point as the second part says. -/
def leading (num den : Nat) : Nat × Nat :=
  if den ≤ num then ((Nat.toDigits 10 (num / den)).length, 0)
  else (0, (Nat.toDigits 10 ((den - 1) / num)).length - 1)

/-- The number of units of `10 ^ up / 10 ^ down` nearest to the number among the two around it that
read back as it. -/
def nearest? (up down : Nat) : Option Nat :=
  let (num, den) := b.fraction
  let unitDen := den * Nat.pow 10 up
  let scaled := num * Nat.pow 10 down
  let below := scaled / unitDen
  let back (k : Nat) : Bool := b.readsBack (k * Nat.pow 10 up) (Nat.pow 10 down)
  match back below, back (below + 1) with
  | true, true => some (if 2 * (scaled % unitDen) < unitDen then below else below + 1)
  | true, false => some below
  | false, true => some (below + 1)
  | false, false => none

/-- Try `count` digits and more, at most seventeen. The answer is the digits as a number, and the
power of ten, up or down, that they count. -/
def search (fuel count : Nat) : Nat × Nat × Nat :=
  let (num, den) := b.fraction
  let (whole, zeros) := leading num den
  let up := whole - count
  let down := count + zeros - whole
  match fuel, b.nearest? up down with
  | _, some k => (k, up, down)
  | 0, none => (0, up, down)
  | fuel + 1, none => search fuel (count + 1)

/-- The digits of the shortest decimal and the place of its point: the value is `0.d₁d₂…` times ten
to the power `place`, where a place below one is given by the zeros that follow the point. -/
def shortest : List Char × Int :=
  let (k, up, down) := b.search 16 1
  let digits := Nat.toDigits 10 k
  let trimmed := (digits.reverse.dropWhile (· = '0')).reverse
  (trimmed, (digits.length : Int) + up - down)

end Binary

/-- A digit string with its point: at least one digit on both sides. -/
def positional (digits : List Char) (place : Int) : List Char :=
  if place ≤ 0 then '0' :: '.' :: List.replicate (-place).toNat '0' ++ digits
  else
    let n := place.toNat
    let whole := digits.take n ++ List.replicate (n - digits.length) '0'
    let rest := digits.drop n
    whole ++ '.' :: if rest.isEmpty then ['0'] else rest

/-- One digit before the point, and the exponent of ten. -/
def scientific (digits : List Char) (place : Int) : List Char :=
  let rest := digits.drop 1
  let fraction := if rest.isEmpty then [] else '.' :: rest
  digits.take 1 ++ fraction ++ 'e' :: (toString (place - 1)).toList

/-- `n / 2 ^ shift` as a shortest decimal. Numbers from `10 ^ 16` on are written with an exponent.
-/
def shortestScaled (n shift : Nat) : String :=
  if n = 0 then "0.0"
  else
    let (digits, place) := (Binary.ofScaled n shift).shortest
    String.ofList (if place > 16 then scientific digits place else positional digits place)

end DeviceCode.Text
