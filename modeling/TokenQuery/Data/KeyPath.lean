import TokenQuery.Data.Value
import TokenQuery.Decimal.Binary
import TokenQuery.Entries

/-!
Paths into data, and laying data over other data. Laying a table over a table goes key by key; any
other value takes the place of what was there.
-/

set_option autoImplicit false

namespace TokenQuery

/-- A step from a value to a part of it. A negative index counts from the end of a list. -/
inductive PathStep where
  | key (key : String)
  | index (index : Int)
  deriving DecidableEq

/-- The steps from a table to a part of it, the first of them a key. -/
structure KeyPath where
  root : String
  steps : List PathStep := []
  deriving DecidableEq

namespace KeyPath

def isKeyChar (c : Char) : Bool := c.isAlphanum || c == '_' || c == '-'

def readIndex? (text : List Char) : Option (Int × List Char) := do
  let (negative, body) := match text with
    | '-' :: rest => (true, rest)
    | text => (false, text)
  let digits := body.takeWhile Char.isDigit
  match body.dropWhile Char.isDigit with
  | ']' :: rest =>
    let n := Decimal.ofDigits digits
    if digits.isEmpty ∨ Decimal.greatestSigned < n then none
    else return (if negative then -(n : Int) else n, rest)
  | _ => none

/-- Reads the steps behind the first key: keys after dots, and indexes in brackets. -/
def readSteps? : Nat → List Char → Option (List PathStep)
  | _, [] => some []
  | 0, _ :: _ => none
  | steps + 1, c :: rest =>
    if c = '.' then
      let key := rest.takeWhile isKeyChar
      if key.isEmpty then none
      else (readSteps? steps (rest.dropWhile isKeyChar)).map (.key (String.ofList key) :: ·)
    else if c = '[' then do
      let (index, rest) ← readIndex? rest
      return .index index :: (← readSteps? steps rest)
    else none

def read? (text : String) : Option KeyPath :=
  let text := text.toList
  let root := text.takeWhile isKeyChar
  if root.isEmpty then none
  else (readSteps? text.length (text.dropWhile isKeyChar)).map (⟨String.ofList root, ·⟩)

/-- The path that a name describes; a name that is no path is a single key. -/
def ofName (name : String) : KeyPath := (read? name).getD ⟨name, []⟩

end KeyPath

namespace Data

/-- The items with nulls added so that the index is one of theirs, and the position of that
index. -/
def padded (index : Int) (items : List Data) : List Data × Nat :=
  if 0 ≤ index then
    (items ++ List.replicate (index.toNat + 1 - items.length) .null, index.toNat)
  else if index.natAbs ≤ items.length then (items, items.length - index.natAbs)
  else (List.replicate (index.natAbs - items.length) .null ++ items, 0)

/-- Changes the part of a value that some steps lead to. What is in the way of a step, because it is
no table or no list, gives place to an empty one. -/
def changeAt (change : Data → Data) : List PathStep → Data → Data
  | [], value => change value
  | .key key :: steps, value =>
    .table (Entries.update key (fun old => changeAt change steps (old.getD .null)) value.fields)
  | .index index :: steps, value =>
    let (items, position) := padded index value.items
    .list (items.modify position (changeAt change steps))

mutual

def overlay (old : Data) (incoming : Data) : Data :=
  match incoming with
  | .table incoming => .table (overlayFields old.fields incoming)
  | value => value

def overlayFields (old : List (String × Data)) (incoming : List (String × Data)) :
    List (String × Data) :=
  match incoming with
  | [] => old
  | (key, value) :: rest =>
    overlayFields (Entries.update key (fun old => overlay (old.getD .null) value) old) rest

end

/-- A value laid over the part of a table that a path leads to. -/
def overlayAt (old : Data) (path : KeyPath) (value : Data) : Data :=
  changeAt (overlay · value) (.key path.root :: path.steps) old

mutual

/-- The value with the whole numbers beyond 63 bits and a sign as floating-point numbers. -/
def narrowed : Data → Data
  | .int n => if Decimal.greatestSigned < n then .float (Decimal.nearest n.toNat 0) else .int n
  | .list items => .list (narrowedItems items)
  | .table fields => .table (narrowedFields fields)
  | value => value

def narrowedItems : List Data → List Data
  | [] => []
  | value :: rest => value.narrowed :: narrowedItems rest

def narrowedFields : List (String × Data) → List (String × Data)
  | [] => []
  | (key, value) :: rest => (key, value.narrowed) :: narrowedFields rest

end

end Data

end TokenQuery
