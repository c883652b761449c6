/-!
Decimal numbers and floating-point numbers: the nearest floating-point number of a decimal, and the
shortest decimal that reads back as a floating-point number.
-/

set_option autoImplicit false

namespace TokenQuery.Decimal

def leastSigned : Int := -0x8000000000000000

def greatestSigned : Int := 0x7FFFFFFFFFFFFFFF

def greatestUnsigned : Nat := 0xFFFFFFFFFFFFFFFF

def ofDigits (digits : List Char) : Nat :=
  digits.foldl (fun n c => 10 * n + (c.toNat - '0'.toNat)) 0

def digitsOf (n : Nat) : List Char := Nat.toDigits 10 n

/-- The floating-point number nearest to `mantissa` times ten to the power `exponent`. Numbers
beyond the range of floating point are told by their order of magnitude. -/
def nearest (mantissa : Nat) (exponent : Int) : Float :=
  let magnitude := exponent + (digitsOf mantissa).length
  if mantissa = 0 ∨ magnitude < -330 then 0.0
  else if 310 < magnitude then 1.0 / 0.0
  else if exponent < 0 then Float.ofScientific mantissa true exponent.natAbs
  else Float.ofScientific mantissa false exponent.natAbs

/-- A positive floating-point number taken apart: it is `mantissa` times two to the power
`exponent`, and `lowest` tells that the number below it is half as far away as the one above it. -/
structure Parts where
  mantissa : Nat
  exponent : Int
  lowest : Bool
  deriving DecidableEq

/-- The first mantissa of a normal number: two to the power 52. -/
def normalMantissa : Nat := 0x10000000000000

/-- Takes the bits of a finite number apart, without its sign. -/
def Parts.ofBits (bits : Nat) : Parts :=
  let fraction : Nat := bits % normalMantissa
  let biased : Nat := bits / normalMantissa % 0x800
  if biased = 0 then ⟨fraction, -1074, false⟩
  else ⟨normalMantissa + fraction, (biased : Int) - 1075, fraction == 0 && decide (1 < biased)⟩

/-- Compares `a` times two to the power `p` with `b` times ten to the power `q`. -/
def compareScaled (a : Nat) (p : Int) (b : Nat) (q : Int) : Ordering :=
  compare (a * Nat.pow 2 p.toNat * Nat.pow 10 (-q).toNat)
    (b * Nat.pow 10 q.toNat * Nat.pow 2 (-p).toNat)

namespace Parts

/-- The decimal `digits` times ten to the power `scale` rounds to the number: it is no further away
than half the way to the neighbours, and an even mantissa also takes the decimals half way. -/
def roundsFrom (parts : Parts) (digits : Nat) (scale : Int) : Bool :=
  let low := 4 * parts.mantissa - (if parts.lowest then 1 else 2)
  let high := 4 * parts.mantissa + 2
  let p := parts.exponent - 2
  let even := parts.mantissa % 2 == 0
  let above := compareScaled low p digits scale
  let below := compareScaled high p digits scale
  (above == .lt || (above == .eq && even)) && (below == .gt || (below == .eq && even))

/-- The number divided by ten to the power `scale`, rounded down. -/
def floorAt (parts : Parts) (scale : Int) : Nat :=
  (parts.mantissa * Nat.pow 2 parts.exponent.toNat * Nat.pow 10 (-scale).toNat) /
    (Nat.pow 2 (-parts.exponent).toNat * Nat.pow 10 scale.toNat)

/-- The nearer of two neighbouring decimals `low` and `low + 1`; the even one when they are equally
near. -/
def nearer (parts : Parts) (low : Nat) (scale : Int) : Nat :=
  match compareScaled (2 * parts.mantissa) parts.exponent (2 * low + 1) scale with
  | .lt => low
  | .gt => low + 1
  | .eq => if low % 2 = 0 then low else low + 1

/-- A decimal with the given scale that rounds to the number, if there is one. -/
def hit? (parts : Parts) (scale : Int) : Option Nat :=
  let low := parts.floorAt scale
  match parts.roundsFrom low scale, parts.roundsFrom (low + 1) scale with
  | true, true => some (parts.nearer low scale)
  | true, false => some low
  | false, true => some (low + 1)
  | false, false => none

/-- Looks for the coarsest scale with a hit, from `scale` downwards. -/
private def searchFrom (parts : Parts) : Nat → Int → Nat × Int
  | 0, scale => (parts.floorAt scale, scale)
  | steps + 1, scale =>
    match parts.hit? scale with
    | some digits => if digits = 0 then searchFrom parts steps (scale - 1) else (digits, scale)
    | none => searchFrom parts steps (scale - 1)

/-- The shortest decimal that rounds to a number other than zero, as digits and a power of ten. The
search begins at a power of ten above the number. -/
def shortest (parts : Parts) : Nat × Int :=
  let top := (parts.exponent + (parts.mantissa.log2 : Int) + 1) * 30103 / 100000 + 2
  searchFrom parts 400 top

end Parts

/-- The digits in positional notation, without exponent and without a fraction of zero. -/
def positional (digits : List Char) (scale : Int) : List Char :=
  if 0 ≤ scale then digits ++ List.replicate scale.toNat '0'
  else
    let places := scale.natAbs
    let padded := List.replicate (places + 1 - digits.length) '0' ++ digits
    padded.take (padded.length - places) ++ '.' :: padded.drop (padded.length - places)

/-- Drops the zeros at the end of a number, which raise its scale. -/
private def trimZeros : Nat → Nat → Int → Nat × Int
  | 0, digits, scale => (digits, scale)
  | steps + 1, digits, scale =>
    if digits ≠ 0 ∧ digits % 10 = 0 then trimZeros steps (digits / 10) (scale + 1)
    else (digits, scale)

/-- The text of a floating-point number: the fewest digits that read back, in positional
notation. -/
def textOf (x : Float) : String :=
  let bits := x.toBits.toNat
  let sign := if 0x8000000000000000 ≤ bits then "-" else ""
  let body := bits % 0x8000000000000000
  if 0x7FF0000000000000 < body then "NaN"
  else if body = 0x7FF0000000000000 then sign ++ "inf"
  else if body = 0 then sign ++ "0"
  else
    let (digits, scale) := (Parts.ofBits body).shortest
    let (digits, scale) := trimZeros 400 digits scale
    sign ++ String.ofList (positional (digitsOf digits) scale)

/-- A sign in front of a text: whether it is a minus sign, and the text behind it. -/
def takeSign : List Char → Bool × List Char
  | '-' :: rest => (true, rest)
  | '+' :: rest => (false, rest)
  | text => (false, text)

def signed (negative : Bool) (x : Float) : Float := if negative then -x else x

/-- Reads an optional exponent that ends the text: the letter, an optional sign and digits. -/
def readExponent? : List Char → Option Int
  | [] => some 0
  | c :: rest =>
    if c = 'e' ∨ c = 'E' then
      let (negative, digits) := takeSign rest
      if digits.isEmpty || digits.any (!·.isDigit) then none
      else some (if negative then -(ofDigits digits : Int) else ofDigits digits)
    else none

/-- Reads a floating-point number: a sign, digits with or without a point, and an exponent; also
"inf", "infinity" and "nan" in any case. At least one digit is needed, on either side of the
point. -/
def readFloat? (text : List Char) : Option Float :=
  let (negative, body) := takeSign text
  match String.ofList (body.map Char.toLower) with
  | "inf" | "infinity" => some (signed negative (1.0 / 0.0))
  | "nan" => some (0.0 / 0.0)
  | _ =>
    let whole := body.takeWhile Char.isDigit
    let (fraction, rest) := match body.dropWhile Char.isDigit with
      | '.' :: rest => (rest.takeWhile Char.isDigit, rest.dropWhile Char.isDigit)
      | rest => ([], rest)
    if whole.isEmpty && fraction.isEmpty then none
    else (readExponent? rest).map fun exponent =>
      signed negative (nearest (ofDigits (whole ++ fraction)) (exponent - fraction.length))

/-- Reads a whole number between two bounds: an optional sign and digits. -/
def readInt? (low high : Int) (text : List Char) : Option Int :=
  let (negative, digits) := takeSign text
  if digits.isEmpty || digits.any (!·.isDigit) then none
  else
    let n : Int := if negative then -(ofDigits digits : Int) else ofDigits digits
    if low ≤ n ∧ n ≤ high then some n else none

end TokenQuery.Decimal
