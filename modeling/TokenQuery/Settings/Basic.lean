import TokenQuery.Dataset

/-!
Settings: what adapts the library to a dialect of tokens, and named queries.
-/

set_option autoImplicit false

namespace TokenQuery

/-- A filter as it is written in settings. The shorthand is another way to give the name and the
arguments of the criteria. -/
structure FilterSpec where
  label : Option String := none
  shorthand : Option String := none
  criteria : Criteria := .any
  limit : Nat := 0
  terminating : Bool := false

namespace FilterSpec

/-- The criteria with the name and the arguments of the shorthand, which must not be given in both
ways. -/
def fullCriteria (spec : FilterSpec) : Except QueryError Criteria :=
  match spec.shorthand with
  | none => .ok spec.criteria
  | some shorthand => do
    if spec.criteria.name.isSome || spec.criteria.args.isSome then
      throw (.ambiguous (.shorthandFilter shorthand))
    let read ← Criteria.parse shorthand
    return { spec.criteria with name := read.name, args := read.args }

def build (spec : FilterSpec) : Except QueryError Filter := do
  let filter ← Filter.ofSpec (← spec.fullCriteria)
  return { filter.withLimit spec.limit with label := spec.label, terminating := spec.terminating }

end FilterSpec

/-- The rules of a dialect, and lists of filters by name. -/
structure Settings where
  scope : ScopeRules := .standard
  objects : Resolver := .standard
  queries : List (String × List FilterSpec) := []

namespace Settings

/-- A new query from the filters with a name, or nothing when there is no such name. -/
def query? (settings : Settings) (name : String) : Except QueryError (Option Query) :=
  match settings.queries.lookup name with
  | none => .ok none
  | some specs => do return some ⟨← specs.mapM FilterSpec.build⟩

end Settings

def Settings.dataset (settings : Settings) : Dataset :=
  { resolver := settings.objects, scope := settings.scope }

end TokenQuery
