import TokenQuery.Scope.Props

/-!
Dictionaries of properties, by name and by signature.
-/

set_option autoImplicit false

namespace TokenQuery

/-- The properties under one key of a dictionary: a single one, or a list. -/
inductive PropValue where
  | one (prop : Handle)
  | many (props : List Handle)
  deriving DecidableEq

namespace PropValue

def toList : PropValue → List Handle
  | one prop => [prop]
  | many props => props

/-- The slot of a property is among them, whatever the tokens contain. -/
def contains (value : PropValue) (prop : Handle) : Bool := value.toList.any (·.sameSlot prop)

/-- The value with one more property, which makes it a list. -/
def push (value : PropValue) (prop : Handle) : PropValue := .many (value.toList ++ [prop])

@[simp] theorem toList_push (value : PropValue) (prop : Handle) :
    (value.push prop).toList = value.toList ++ [prop] := rfl

end PropValue

/-- How a dictionary of properties is made: whether single properties are lists as well, and whether
the keys are names, signatures or both. -/
structure PropDictOptions where
  alwaysList : Bool := true
  nameKeys : Bool := true
  fullKeys : Bool := true
  deriving DecidableEq

def PropDictOptions.keys (options : PropDictOptions) (token : Token) : List String :=
  (if options.nameKeys then [token.name] else []) ++
    (if options.fullKeys then [token.signature] else [])

/-- Properties by key, in the order in which the keys were first seen. -/
abbrev PropDict := List (String × PropValue)

namespace PropDict

def get? (dict : PropDict) (key : String) : Option PropValue := dict.lookup key

/-- The dictionary with a property under a key. A slot is kept once. -/
def add (alwaysList : Bool) (prop : Handle) (key : String) (dict : PropDict) : PropDict :=
  Entries.update key (fun value =>
    match value with
    | none => if alwaysList then .many [prop] else .one prop
    | some value => if value.contains prop then value else value.push prop) dict

def ofProps (options : PropDictOptions) (props : List Handle) : PropDict :=
  props.foldl (fun dict prop =>
    (options.keys prop.token).foldl (fun dict key => add options.alwaysList prop key dict) dict) []

end PropDict

namespace Props

def dict (props : Props) (options : PropDictOptions) : Traced PropDict := do
  return PropDict.ofProps options (← props.tokens)

end Props

end TokenQuery
