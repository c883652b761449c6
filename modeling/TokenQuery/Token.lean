import TokenQuery.Text.Segment

/-!
Tokens and their locations. A token is a name with a list of arguments; its signature joins them by
colons, and its rendering is the signature in brackets.
-/

set_option autoImplicit false

namespace TokenQuery

/-- A name followed by an ordered list of arguments. -/
structure Token where
  name : String
  args : List String
  deriving DecidableEq, Inhabited

namespace Token

def bare (name : String) : Token := ⟨name, []⟩

def nargs (token : Token) : Nat := token.args.length

def arg? (token : Token) (position : Nat) : Option String := token.args[position]?

def signature (token : Token) : String := Text.joined ':' (token.name :: token.args)

def render (token : Token) : String := "[" ++ token.signature ++ "]"

def withArgs (token : Token) (args : List String) : Token := { token with args }

end Token

/-- Where a token stands: the name of its source and its index in it. -/
structure Location where
  source : String
  index : Nat
  deriving DecidableEq, Inhabited

namespace Location

def render (location : Location) : String :=
  location.source ++ "#" ++ toString location.index

/-- Locations are ordered by source name, code point by code point, and then by index. -/
def order (a b : Location) : Ordering :=
  (compare a.source b.source).then (compare a.index b.index)

end Location

end TokenQuery
