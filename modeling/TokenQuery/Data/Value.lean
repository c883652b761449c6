/-!
Data: the values that settings files, requests and environment variables hold.
-/

set_option autoImplicit false

namespace TokenQuery

/-- A value without a type of its own: a scalar, a list or a table. -/
inductive Data where
  | null
  | bool (b : Bool)
  | int (n : Int)
  | float (x : Float)
  | text (s : String)
  | list (items : List Data)
  | table (fields : List (String × Data))
  deriving Inhabited

namespace Data

def fields : Data → List (String × Data)
  | table fields => fields
  | _ => []

def items : Data → List Data
  | list items => items
  | _ => []

end Data

end TokenQuery
