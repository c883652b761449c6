import TokenQuery.Criteria
import TokenQuery.Sequence

/-!
Filters: a filter collects the tokens that it matches, up to its limit.
-/

set_option autoImplicit false

namespace TokenQuery

/-- A matcher with a limit on the number of matches, and the matches found so far. -/
structure Filter where
  label : Option String := none
  matcher : Matcher
  limit : Option Nat := none
  terminating : Bool := false
  result : Array Handle := #[]

namespace Filter

def ofSpec (spec : Spec) : Except QueryError Filter := do return { matcher := ← spec.compile }

def any : Filter := { matcher := .any }

/-- The filter with a limit. A limit of zero means no limit. -/
def withLimit (filter : Filter) (limit : Nat) : Filter :=
  { filter with limit := if limit = 0 then none else some limit }

/-- The filter that ends the pass when it reaches its limit. -/
def terminate (filter : Filter) : Filter := { filter with terminating := true }

def withLabel (filter : Filter) (label : String) : Filter := { filter with label := some label }

def cleared (filter : Filter) : Filter := { filter with result := #[] }

def saturated (filter : Filter) : Bool := filter.limit.any (· ≤ filter.result.size)

/-- The filter has exactly as many matches as its limit says. -/
def reachedLimit (filter : Filter) : Bool := filter.limit == some filter.result.size

def offered (filter : Filter) (handle : Handle) : Filter :=
  if filter.matcher.accepts handle.token then
    { filter with result := filter.result.push handle }
  else filter

end Filter

end TokenQuery
