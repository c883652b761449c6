import TokenQuery.Text.Segment

/-!
Rules from object types to header tags.
-/

set_option autoImplicit false

namespace TokenQuery

/-- A rule from object types to header tags. The placeholder for the type in a header stands for the
type being resolved. -/
inductive TypeRule where
  | exact (types headers : List String)
  | prefixed (start : String) (headers : List String)
  deriving DecidableEq

namespace TypeRule

def placeholder : String := "\x7btype\x7d"

def accepts (objectType : String) : TypeRule → Bool
  | exact types _ => types.contains objectType
  | prefixed start _ => Text.startsWith objectType start

def headers : TypeRule → List String
  | exact _ headers | prefixed _ headers => headers

/-- The tags of an object type, when the rule is about it. -/
def tags? (rule : TypeRule) (objectType : String) : Option (List String) :=
  if rule.accepts objectType then
    some (rule.headers.map (Text.replaced placeholder objectType))
  else none

end TypeRule

end TokenQuery
