import TokenQuery.Criteria

/-!
Scope rules: where the properties of a record end. Records are listed flat without an end mark, so
the properties of a record run until the next token that begins another record of the same kind.
-/

set_option autoImplicit false

namespace TokenQuery

/-- Which tokens begin records of the same kind: those with the item prefix among themselves, those
named like a category among themselves, and any other token with those of its own name. -/
structure ScopeRules where
  itemPrefix : String := "ITEM_"
  categories : List String := ["WORD", "SYMBOL"]
  deriving DecidableEq, Inhabited

namespace ScopeRules

def standard : ScopeRules := {}

/-- The name begins with the item prefix, when there is one. -/
def isItem (rules : ScopeRules) (name : String) : Bool :=
  !rules.itemPrefix.isEmpty && Text.startsWith name rules.itemPrefix

/-- The pattern of the names of items: the item prefix and at least one more character. -/
def itemPattern (rules : ScopeRules) : String :=
  String.ofList (Pattern.escape rules.itemPrefix.toList ++ ['.', '+'])

/-- The criteria of the tokens that end the record of an owner. -/
def boundary (rules : ScopeRules) (owner : Token) : Criteria :=
  if rules.isItem owner.name then Criteria.any.withNamePattern rules.itemPattern
  else if rules.categories.contains owner.name then Criteria.any.withNameIn rules.categories
  else Criteria.any.withName owner.name

end ScopeRules

end TokenQuery
