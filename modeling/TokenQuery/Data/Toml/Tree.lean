import TokenQuery.Data.Value
import TokenQuery.Entries

/-!
Tables of TOML under construction. A table remembers how it came about, which decides whether a
later header or dotted key may still add to it.
-/

set_option autoImplicit false

namespace TokenQuery.Toml

/-- How a table came about: as the parent of a table with a header, by a dotted key, or by a header
of its own. -/
inductive Origin where
  | parent
  | dotted
  | header
  deriving DecidableEq

/-- A value, a table that may still grow, or a list of tables each under a header, the last one of
which may still grow. -/
inductive Tree where
  | value (data : Data)
  | table (origin : Origin) (fields : List (String × Tree))
  | tables (rows : List (List (String × Tree)))

/-- The fields of a table under construction. -/
abbrev Fields := List (String × Tree)

namespace Tree

mutual

def toData : Tree → Data
  | .value data => data
  | .table _ fields => .table (fieldsToData fields)
  | .tables rows => .list (rowsToData rows)

def fieldsToData : List (String × Tree) → List (String × Data)
  | [] => []
  | (key, tree) :: rest => (key, tree.toData) :: fieldsToData rest

def rowsToData : List (List (String × Tree)) → List Data
  | [] => []
  | fields :: rest => .table (fieldsToData fields) :: rowsToData rest

end

end Tree

namespace Fields

def changeLast (change : Fields → Option Fields) (rows : List Fields) : Option (List Fields) :=
  match rows.getLast? with
  | none => none
  | some last => (change last).map (rows.dropLast ++ [·])

/-- Changes the table that a header's path leads to, and makes the parents on the way to it. -/
def within (change : Fields → Option Fields) : List String → Fields → Option Fields
  | [], fields => change fields
  | key :: path, fields =>
    match fields.lookup key with
    | none => do return Entries.set key (.table .parent (← within change path [])) fields
    | some (.table origin inner) => do
      return Entries.set key (.table origin (← within change path inner)) fields
    | some (.tables rows) => do
      return Entries.set key (.tables (← changeLast (within change path) rows)) fields
    | some (.value _) => none

/-- Opens the table with a header. A table has at most one header, and only the parent of other
tables may get it later than them. -/
def openTable (key : String) (fields : Fields) : Option Fields :=
  match fields.lookup key with
  | none => some (Entries.set key (.table .header []) fields)
  | some (.table .parent inner) => some (Entries.set key (.table .header inner) fields)
  | some _ => none

def openRow (key : String) (fields : Fields) : Option Fields :=
  match fields.lookup key with
  | none => some (Entries.set key (.tables [[]]) fields)
  | some (.tables rows) => some (Entries.set key (.tables (rows ++ [[]])) fields)
  | some _ => none

/-- Puts a value under a key with dots in it. The key may pass through tables that have no header of
their own, and the value must be new. -/
def put (value : Data) : List String → Fields → Option Fields
  | [], _ => none
  | [key], fields =>
    match fields.lookup key with
    | none => some (Entries.set key (.value value) fields)
    | some _ => none
  | key :: path, fields =>
    match fields.lookup key with
    | none => do return Entries.set key (.table .dotted (← put value path [])) fields
    | some (.table .header _) => none
    | some (.table origin inner) => do
      return Entries.set key (.table origin (← put value path inner)) fields
    | some _ => none

def toData (fields : Fields) : Data := .table (Tree.fieldsToData fields)

end Fields

end TokenQuery.Toml
