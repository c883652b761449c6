import TokenQuery.Data.Value
import TokenQuery.Decimal.Binary
import TokenQuery.Entries
import TokenQuery.Unicode.Ranges

/-!
JSON: reading the text of a value. Whole numbers that fit 64 bits are kept exactly, all other
numbers are floating point.
-/

set_option autoImplicit false

namespace TokenQuery.Json

def depthLimit : Nat := 128

def skip (text : List Char) : List Char :=
  text.dropWhile fun c => c == ' ' || c == '\t' || c == '\n' || c == '\r'

def readUnit? : List Char → Option (Nat × List Char)
  | a :: b :: c :: d :: rest =>
    if [a, b, c, d].all fun e => (Unicode.hexValue? e).isSome then
      some (Unicode.hexNumber [a, b, c, d], rest)
    else none
  | _ => none

/-- The character of an escape of four digits, or of two such escapes that make a surrogate pair. -/
def readUnicode? (text : List Char) : Option (Char × List Char) := do
  let (first, rest) ← readUnit? text
  if 0xD800 ≤ first ∧ first < 0xDC00 then
    match rest with
    | '\\' :: 'u' :: rest =>
      let (second, rest) ← readUnit? rest
      if 0xDC00 ≤ second ∧ second < 0xE000 then
        return (Char.ofNat (0x10000 + 0x400 * (first - 0xD800) + (second - 0xDC00)), rest)
      else none
    | _ => none
  else if 0xDC00 ≤ first ∧ first < 0xE000 then none
  else return (Char.ofNat first, rest)

def escaped? : Char → Option Char
  | '"' => some '"'
  | '\\' => some '\\'
  | '/' => some '/'
  | 'b' => some (Char.ofNat 0x08)
  | 'f' => some (Char.ofNat 0x0C)
  | 'n' => some '\n'
  | 'r' => some '\r'
  | 't' => some '\t'
  | _ => none

/-- Reads the characters of a string behind its opening quote; `steps` bounds their number, and
`taken` holds them in reverse. -/
def readText? : Nat → List Char → List Char → Option (String × List Char)
  | 0, _, _ => none
  | steps + 1, taken, text =>
    match text with
    | [] => none
    | '"' :: rest => some (String.ofList taken.reverse, rest)
    | '\\' :: 'u' :: rest => do
      let (c, rest) ← readUnicode? rest
      readText? steps (c :: taken) rest
    | '\\' :: c :: rest => do readText? steps ((← escaped? c) :: taken) rest
    | c :: rest => if c.toNat < 0x20 then none else readText? steps (c :: taken) rest

/-- The digits that a floating-point number is made of: a significand of as many leading digits as
fit 64 bits, and the power of ten that the other whole digits amount to. -/
def significand (whole fraction : List Char) : Nat × Int :=
  let step (fits : Bool) (n : Nat) (c : Char) : Option Nat :=
    let next := 10 * n + (c.toNat - '0'.toNat)
    if fits && decide (next ≤ Decimal.greatestUnsigned) then some next else none
  let (n, dropped) := whole.foldl (fun (n, dropped) c =>
    match step (dropped == 0) n c with
    | some next => (next, 0)
    | none => (n, dropped + 1)) (0, 0)
  let (n, places, _) := fraction.foldl (fun (n, places, fits) c =>
    match step fits n c with
    | some next => (next, places + 1, true)
    | none => (n, places, false)) (n, 0, dropped == 0)
  (n, (dropped : Int) - (places : Nat))

/-- The significand times a power of ten, which is applied in steps of at most 308. A number too
large for floating point has no value. -/
def scaled? : Nat → Float → Int → Option Float
  | 0, _, _ => none
  | steps + 1, x, exponent =>
    if exponent.natAbs ≤ 308 then
      let power := Decimal.nearest 1 exponent.natAbs
      if 0 ≤ exponent then
        let product := x * power
        if product.isInf then none else some product
      else some (x / power)
    else if x == 0.0 then some x
    else if 0 ≤ exponent then none
    else scaled? steps (x / Decimal.nearest 1 308) (exponent + 308)

def number? (negative : Bool) (whole fraction : List Char) (exponent : Option Int) : Option Data :=
  let n := Decimal.ofDigits whole
  let value : Int := if negative then -(n : Int) else n
  if exponent.isNone && fraction.isEmpty && !(negative && n == 0) &&
      decide (Decimal.leastSigned ≤ value ∧ value ≤ Decimal.greatestUnsigned) then
    some (.int value)
  else
    let (digits, power) := significand whole fraction
    let total := power + exponent.getD 0
    (scaled? 12 (Decimal.nearest digits 0) (max (-3000) (min 3000 total))).map fun x =>
      .float (Decimal.signed negative x)

/-- Reads a number: whole digits without leading zeros, then a fraction and an exponent, each with
at least one digit. -/
def readNumber? (text : List Char) : Option (Data × List Char) := do
  let (negative, text) := match text with
    | '-' :: rest => (true, rest)
    | text => (false, text)
  let whole := text.takeWhile Char.isDigit
  let rest := text.dropWhile Char.isDigit
  if whole.isEmpty || (whole.head? == some '0' && whole.length != 1) then none
  let (fraction, rest) ← match rest with
    | '.' :: rest =>
      let digits := rest.takeWhile Char.isDigit
      if digits.isEmpty then none else some (digits, rest.dropWhile Char.isDigit)
    | rest => some ([], rest)
  let (exponent, rest) ← match rest with
    | c :: tail =>
      if c = 'e' ∨ c = 'E' then
        let (minus, digits) := Decimal.takeSign tail
        let power := digits.takeWhile Char.isDigit
        if power.isEmpty then none
        else
          let n : Int := Decimal.ofDigits power
          some (some (if minus then -n else n), digits.dropWhile Char.isDigit)
      else some (none, rest)
    | [] => some (none, rest)
  return (← number? negative whole fraction exponent, rest)

mutual

/-- Reads a value. `steps` bounds the work, and `depth` how deep lists and tables may still be
nested. -/
def readValue? : Nat → Nat → List Char → Option (Data × List Char)
  | 0, _, _ => none
  | steps + 1, depth, text =>
    match skip text with
    | 'n' :: 'u' :: 'l' :: 'l' :: rest => some (.null, rest)
    | 't' :: 'r' :: 'u' :: 'e' :: rest => some (.bool true, rest)
    | 'f' :: 'a' :: 'l' :: 's' :: 'e' :: rest => some (.bool false, rest)
    | '"' :: rest => do
      let (s, rest) ← readText? (rest.length + 1) [] rest
      return (.text s, rest)
    | '[' :: rest =>
      if depth ≤ 1 then none
      else
        match skip rest with
        | ']' :: rest => some (.list [], rest)
        | rest => readItems? steps (depth - 1) [] rest
    | c :: rest =>
      if c = Char.ofNat 0x7B then
        if depth ≤ 1 then none
        else
          match skip rest with
          | [] => none
          | d :: inner =>
            if d = Char.ofNat 0x7D then some (.table [], inner)
            else readFields? steps (depth - 1) [] (d :: inner)
      else readNumber? (c :: rest)
    | [] => none

/-- Reads the items of a list; `taken` holds those before in reverse. -/
def readItems? : Nat → Nat → List Data → List Char → Option (Data × List Char)
  | 0, _, _, _ => none
  | steps + 1, depth, taken, text => do
    let (value, rest) ← readValue? steps depth text
    match skip rest with
    | ',' :: rest => readItems? steps depth (value :: taken) rest
    | ']' :: rest => return (.list (value :: taken).reverse, rest)
    | _ => none

/-- Reads the fields of a table. A key that is repeated takes its last value. -/
def readFields? : Nat → Nat → List (String × Data) → List Char → Option (Data × List Char)
  | 0, _, _, _ => none
  | steps + 1, depth, taken, text => do
    match skip text with
    | '"' :: rest =>
      let (key, rest) ← readText? (rest.length + 1) [] rest
      match skip rest with
      | ':' :: rest =>
        let (value, rest) ← readValue? steps depth rest
        let taken := Entries.set key value taken
        match skip rest with
        | ',' :: rest => readFields? steps depth taken rest
        | c :: rest => if c = Char.ofNat 0x7D then return (.table taken, rest) else none
        | [] => none
      | _ => none
    | _ => none

end

def read? (text : String) : Option Data := do
  let text := text.toList
  let (value, rest) ← readValue? (2 * text.length + 2) depthLimit text
  if (skip rest).isEmpty then some value else none

end TokenQuery.Json
