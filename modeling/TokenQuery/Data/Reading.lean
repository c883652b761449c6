import TokenQuery.Data.Value
import TokenQuery.Decimal.Binary

/-!
Reading typed values out of data. Strict reading takes a value only if it has the wanted type.
Lenient reading converts scalars into each other, and takes a list in the place of a table for its
fields in order.
-/

set_option autoImplicit false

namespace TokenQuery

/-- How values are read. -/
inductive Reading where
  | strict
  | lenient
  deriving DecidableEq

def lowerAscii (text : String) : String := String.ofList (text.toList.map Char.toLower)

namespace Reading

/-- A text. Leniently the text of any scalar. -/
def text? (reading : Reading) : Data → Option String
  | .text s => some s
  | .bool b => if reading = .lenient then some (if b then "true" else "false") else none
  | .int n => if reading = .lenient then some (toString n) else none
  | .float x => if reading = .lenient then some (Decimal.textOf x) else none
  | _ => none

def ofWord? (word : String) : Option Bool :=
  if ["true", "on", "yes"].contains (lowerAscii word) then some true
  else if ["false", "off", "no"].contains (lowerAscii word) then some false
  else none

/-- The count that a text writes: a truth word, or digits with an optional plus sign. -/
def countOfText? (s : String) : Option Nat :=
  match ofWord? s with
  | some b => some b.toNat
  | none =>
    if s.toList.head? = some '-' then none
    else (Decimal.readInt? 0 Decimal.greatestUnsigned s.toList).map Int.toNat

/-- A count from zero up to 64 bits. Leniently also the nearest count to a floating-point number,
and one or zero for a truth value. -/
def count? (reading : Reading) : Data → Option Nat
  | .int n => if 0 ≤ n ∧ n ≤ Decimal.greatestUnsigned then some n.toNat else none
  | .bool b => if reading = .lenient then some b.toNat else none
  | .float x => if reading = .lenient then some x.round.toUInt64.toNat else none
  | .text s => if reading = .lenient then countOfText? s else none
  | _ => none

/-- A truth value. Leniently also a word for one, and whether a number differs from zero. -/
def flag? (reading : Reading) : Data → Option Bool
  | .bool b => some b
  | .int n => if reading = .lenient then some (n != 0) else none
  | .float x => if reading = .lenient then some (x != 0.0) else none
  | .text s =>
    if reading = .lenient then
      if s = "1" then some true else if s = "0" then some false else ofWord? s
    else none
  | _ => none

def list? {α : Type} (item? : Data → Option α) : Data → Option (List α)
  | .list items => items.mapM item?
  | _ => none

/-- The fields of a record, which are asked for by position and name. -/
abbrev Record := Nat → String → Option Data

def record? (reading : Reading) : Data → Option Record
  | .table fields => some fun _ name => fields.lookup name
  | .list items => if reading = .lenient then some fun position _ => items[position]? else none
  | _ => none

def fieldOr {α : Type} (default : α) (read? : Data → Option α) (value : Option Data) : Option α :=
  match value with
  | none => some default
  | some value => read? value

def optional {α : Type} (read? : Data → Option α) : Option Data → Option (Option α)
  | none | some .null => some none
  | some value => (read? value).map some

def required {α : Type} (read? : Data → Option α) (value : Option Data) : Option α :=
  value.bind read?

end Reading

end TokenQuery
