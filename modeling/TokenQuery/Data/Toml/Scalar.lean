import TokenQuery.Data.Value
import TokenQuery.Decimal.Binary
import TokenQuery.Unicode.Ranges

/-!
Unquoted scalars of TOML: booleans, whole numbers, floating-point numbers, dates and times. Dates
and times have no type of their own among the data; they are the texts of their usual form.
-/

set_option autoImplicit false

namespace TokenQuery.Toml

/-- The digits of a number without the underscores, each of which must stand between two digits. -/
def plainDigits? (isDigit : Char → Bool) (text : List Char) : Option (List Char) :=
  let groups := text.splitOn '_'
  if groups.all fun group => !group.isEmpty && group.all isDigit then some groups.flatten else none

/-- Decimal digits without a leading zero, unless the number is zero. -/
def wholeDigits? (text : List Char) : Option (List Char) := do
  let digits ← plainDigits? Char.isDigit text
  if digits.head? = some '0' ∧ digits.length ≠ 1 then none else some digits

def bounded? (n : Int) : Option Data :=
  if Decimal.leastSigned ≤ n ∧ n ≤ Decimal.greatestSigned then some (.int n) else none

def readBased? (base : Nat) (text : List Char) : Option Data := do
  let valid (c : Char) : Bool := (Unicode.hexValue? c).any (· < base)
  let digits ← plainDigits? valid text
  bounded? (digits.foldl (fun n c => base * n + (Unicode.hexValue? c).getD 0) 0 : Nat)

/-- Reads a whole number: decimal with an optional sign, or with a prefix for its base. -/
def readWhole? (text : List Char) : Option Data :=
  match text with
  | '0' :: 'x' :: rest => readBased? 16 rest
  | '0' :: 'o' :: rest => readBased? 8 rest
  | '0' :: 'b' :: rest => readBased? 2 rest
  | _ => do
    let (negative, digits) := Decimal.takeSign text
    let n := Decimal.ofDigits (← wholeDigits? digits)
    bounded? (if negative then -(n : Int) else n)

/-- Reads the power of ten of a floating-point number behind its letter. -/
def readPower? (text : List Char) : Option Int := do
  let (negative, digits) := Decimal.takeSign text
  let n := Decimal.ofDigits (← plainDigits? Char.isDigit digits)
  return if negative then -(n : Int) else n

/-- Reads a floating-point number: whole digits, and a fraction or a power of ten or both, all of
them with digits. A number beyond the range of floating point is refused. -/
def readReal? (text : List Char) : Option Data := do
  let (negative, body) := Decimal.takeSign text
  match String.ofList body with
  | "inf" => return .float (Decimal.signed negative (1.0 / 0.0))
  | "nan" => return .float (0.0 / 0.0)
  | _ =>
    let isLetter (c : Char) : Bool := c == 'e' || c == 'E'
    let head := body.takeWhile (!isLetter ·)
    let tail := body.dropWhile (!isLetter ·)
    if tail.isEmpty ∧ '.' ∉ head then none
    let whole ← wholeDigits? (head.takeWhile (· != '.'))
    let fraction ← match head.dropWhile (· != '.') with
      | [] => some []
      | _ :: digits => plainDigits? Char.isDigit digits
    let power ← match tail with
      | [] => some 0
      | _ :: rest => readPower? rest
    let x := Decimal.nearest (Decimal.ofDigits (whole ++ fraction)) (power - fraction.length)
    if x.isInf then none else return .float (Decimal.signed negative x)

/-- The number that exactly so many decimal digits write. -/
def readFixed? (count : Nat) (text : List Char) : Option (Nat × List Char) :=
  let digits := text.take count
  if digits.length = count ∧ digits.all Char.isDigit then
    some (Decimal.ofDigits digits, text.drop count)
  else none

def daysIn (year month : Nat) : Nat :=
  if month = 2 then
    if year % 4 = 0 ∧ (year % 100 ≠ 0 ∨ year % 400 = 0) then 29 else 28
  else if month = 4 ∨ month = 6 ∨ month = 9 ∨ month = 11 then 30
  else 31

def readDate? (text : List Char) : Option (List Char × List Char) := do
  let (year, rest) ← readFixed? 4 text
  let '-' :: rest := rest | none
  let (month, rest) ← readFixed? 2 rest
  let '-' :: rest := rest | none
  let (day, rest) ← readFixed? 2 rest
  if 1 ≤ month ∧ month ≤ 12 ∧ 1 ≤ day ∧ day ≤ daysIn year month then
    return (text.take 10, rest)
  else none

/-- The fraction of a second to nine places, without the zeros at its end and without a point when
nothing else is left. -/
def fractionText (digits : List Char) : List Char :=
  match ((digits.take 9).reverse.dropWhile (· == '0')).reverse with
  | [] => []
  | digits => '.' :: digits

def readSeconds? (text : List Char) : Option (List Char × List Char) :=
  match text with
  | ':' :: rest => do
    let (seconds, behind) ← readFixed? 2 rest
    if 60 < seconds then none
    match behind with
    | '.' :: digits =>
      let fraction := digits.takeWhile Char.isDigit
      if fraction.isEmpty then none
      return (':' :: rest.take 2 ++ fractionText fraction, digits.dropWhile Char.isDigit)
    | behind => return (':' :: rest.take 2, behind)
  | rest => some ([], rest)

def readTime? (text : List Char) : Option (List Char × List Char) := do
  let (hours, rest) ← readFixed? 2 text
  let ':' :: rest := rest | none
  let (minutes, rest) ← readFixed? 2 rest
  if 23 < hours ∨ 59 < minutes then none
  let (seconds, behind) ← readSeconds? rest
  return (text.take 5 ++ seconds, behind)

/-- Reads an offset from universal time, and returns its text. -/
def readOffset? (text : List Char) : Option (List Char) :=
  match text with
  | [] => some []
  | [c] => if c = 'Z' ∨ c = 'z' then some ['Z'] else none
  | sign :: rest =>
    if sign = '+' ∨ sign = '-' then do
      let (hours, behind) ← readFixed? 2 rest
      let ':' :: behind := behind | none
      let (minutes, behind) ← readFixed? 2 behind
      if 23 < hours ∨ 59 < minutes ∨ !behind.isEmpty then none
      let sign := if hours = 0 ∧ minutes = 0 then '+' else sign
      return sign :: rest.take 5
    else none

/-- Reads a date, a time, or both with or without an offset. -/
def readMoment? (text : List Char) : Option Data :=
  match readDate? text with
  | none => do
    let (time, rest) ← readTime? text
    if rest.isEmpty then return .text (String.ofList time) else none
  | some (date, []) => some (.text (String.ofList date))
  | some (date, c :: rest) =>
    if c = 'T' ∨ c = 't' ∨ c = ' ' then do
      let (time, rest) ← readTime? rest
      return .text (String.ofList (date ++ 'T' :: time ++ (← readOffset? rest)))
    else none

def isScalarChar (c : Char) : Bool :=
  c.isAlphanum || c == '_' || c == '+' || c == '-' || c == '.' || c == ':'

/-- Reads an unquoted scalar. A date may be followed by one blank and a time. -/
def readScalar? (text : List Char) : Option (Data × List Char) := do
  let word := text.takeWhile isScalarChar
  let rest := text.dropWhile isScalarChar
  let (word, rest) := match readDate? word, rest with
    | some (_, []), ' ' :: d :: behind =>
      if d.isDigit then
        (word ++ ' ' :: (d :: behind).takeWhile isScalarChar, (d :: behind).dropWhile isScalarChar)
      else (word, rest)
    | _, _ => (word, rest)
  let value ←
    if word = ['t', 'r', 'u', 'e'] then some (.bool true)
    else if word = ['f', 'a', 'l', 's', 'e'] then some (.bool false)
    else readWhole? word <|> readReal? word <|> readMoment? word
  return (value, rest)

end TokenQuery.Toml
