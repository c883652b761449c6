import TokenQuery.Data.Reading
import TokenQuery.Edit
import TokenQuery.Settings.Basic

/-!
Decoding: the values of the library from data. Only settings are ever read leniently, and of them
only the plain fields; rules and criteria are strict about their types in either case.
-/

set_option autoImplicit false

namespace TokenQuery

/-- Why data does not decode: it has the wrong shape, or a shorthand in it does not read. -/
inductive DecodeError where
  | shape
  | shorthand (error : QueryError)
  deriving DecidableEq

/-- The value, or else the complaint that the data has the wrong shape. -/
def shaped {α : Type} (value : Option α) : Except DecodeError α :=
  match value with
  | none => .error .shape
  | some value => .ok value

namespace Decode

open Reading

def texts? : Data → Option (List String) := list? strict.text?

/-- A token: its shorthand, or a table with a name and perhaps arguments. -/
def token : Data → Except DecodeError Token
  | .text s =>
    match Token.parse s with
    | .error error => .error (.shorthand error)
    | .ok token => .ok token
  | .table fields => shaped do
    return ⟨← required strict.text? (fields.lookup "name"),
      ← fieldOr [] texts? (fields.lookup "args")⟩
  | _ => .error .shape

def tokens : Data → Except DecodeError (List Token)
  | .list items => items.mapM token
  | _ => .error .shape

/-- A sequence: its name, and perhaps tokens. A name of the wrong type is noticed before the tokens
are read, a missing one afterwards. -/
def sequence : Data → Except DecodeError Sequence
  | .table fields => do
    let name ← shaped (match fields.lookup "name" with
      | none => some none
      | some name => (strict.text? name).map some)
    let tokens ← match fields.lookup "tokens" with
      | none => .ok []
      | some items => tokens items
    match name with
    | none => throw .shape
    | some name => return ⟨name, tokens⟩
  | _ => .error .shape

/-- A test of an argument. Fields that it does not have are refused. -/
def argTest? (reading : Reading) (data : Data) : Option ArgTest := do
  let known := ["position", "exact", "pattern", "one_of"]
  if data.fields.any fun (key, _) => !known.contains key then none
  if known.length < data.items.length then none
  let field ← reading.record? data
  return {
    position := ← fieldOr 0 strict.count? (field 0 "position")
    exact := ← optional strict.text? (field 1 "exact")
    pattern := ← optional strict.text? (field 2 "pattern")
    oneOf := ← optional texts? (field 3 "one_of") }

def criteriaOf? (reading : Reading) (fields : List (String × Data)) : Option Criteria := do
  return {
    name := ← optional strict.text? (fields.lookup "name")
    namePattern := ← optional strict.text? (fields.lookup "name_pattern")
    nameIn := ← optional texts? (fields.lookup "name_in")
    args := ← optional texts? (fields.lookup "args")
    argTests := ← fieldOr [] (list? (argTest? reading)) (fields.lookup "arg_tests")
    argsCount := ← optional strict.count? (fields.lookup "args_count") }

def criteria : Data → Except DecodeError Criteria
  | .table fields => shaped (criteriaOf? strict fields)
  | _ => .error .shape

/-- A filter as it is written in settings: the fields of the criteria stand beside its own. -/
def filterSpec? (reading : Reading) : Data → Option FilterSpec
  | .table fields => do
    return {
      label := ← optional reading.text? (fields.lookup "label")
      shorthand := ← optional reading.text? (fields.lookup "pretty")
      limit := ← fieldOr 0 reading.count? (fields.lookup "limit")
      terminating := ← fieldOr false reading.flag? (fields.lookup "limit_terminates")
      criteria := ← criteriaOf? reading fields }
  | _ => none

def scopeRules? (reading : Reading) (data : Data) : Option ScopeRules := do
  let field ← reading.record? data
  return {
    itemPrefix := ← fieldOr ScopeRules.standard.itemPrefix reading.text? (field 0 "item_prefix")
    categories :=
      ← fieldOr ScopeRules.standard.categories (list? reading.text?) (field 1 "categories") }

def typeRuleOf? (kind : String) (subject headers : Option Data) : Option TypeRule :=
  match kind with
  | "exact" => do return .exact (← required texts? subject) (← required texts? headers)
  | "prefix" => do return .prefixed (← required strict.text? subject) (← required texts? headers)
  | _ => none

/-- A type rule: its kind under "match", and fields that all must be there. -/
def typeRule? (reading : Reading) : Data → Option TypeRule
  | .table fields => do
    let kind ← required strict.text? (fields.lookup "match")
    let subject := if kind = "exact" then "types" else "prefix"
    typeRuleOf? kind (fields.lookup subject) (fields.lookup "headers")
  | .list [kind, subject, headers] =>
    if reading = .lenient then do typeRuleOf? (← strict.text? kind) subject headers else none
  | _ => none

def resolver? (reading : Reading) (data : Data) : Option Resolver := do
  let field ← reading.record? data
  return {
    sentinel := ← fieldOr Resolver.standard.sentinel reading.text? (field 0 "sentinel")
    rules := ← fieldOr Resolver.standard.rules (list? (typeRule? reading)) (field 1 "rules") }

def queries? (reading : Reading) : Data → Option (List (String × List FilterSpec))
  | .table fields => fields.mapM fun (name, specs) => do
    return (name, ← list? (filterSpec? reading) specs)
  | _ => none

def settings? (reading : Reading) (data : Data) : Option Settings := do
  let field ← reading.record? data
  return {
    scope := ← fieldOr .standard (scopeRules? reading) (field 0 "scope")
    objects := ← fieldOr .standard (resolver? reading) (field 1 "objects")
    queries := ← fieldOr [] (queries? reading) (field 2 "queries") }

/-- A mutation: the word for a removal, or a table with one key that names the mutation. -/
def mutation? : Data → Option Mutation
  | .text "Remove" => some .remove
  | .table [("Remove", .null)] => some .remove
  | .table [("AppendArgument", value)] => (strict.text? value).map .appendArgument
  | .table [("RemoveArgument", position)] => (strict.count? position).map .removeArgument
  | .table [("SetArgument", .table fields)] => do
    return .setArgument (← required strict.count? (fields.lookup "position"))
      (← required strict.text? (fields.lookup "value"))
  | _ => none

end Decode

end TokenQuery
