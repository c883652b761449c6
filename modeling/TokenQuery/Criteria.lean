import TokenQuery.Matcher
import TokenQuery.Shorthand

/-!
Criteria: what a token must look like. Every criterion that is set must hold. Compiling criteria
checks that they do not exclude each other by construction and reads their patterns, which makes a
matcher.
-/

set_option autoImplicit false

namespace TokenQuery

/-- A test of the argument at one position. A test with nothing set constrains nothing. -/
structure ArgTest where
  position : Nat := 0
  exact : Option String := none
  pattern : Option String := none
  oneOf : Option (List String) := none
  deriving DecidableEq, Inhabited

/-- What a token must look like. Patterns match from the start of the name or argument, and `args`
is the complete list of arguments. -/
structure Criteria where
  name : Option String := none
  namePattern : Option String := none
  nameIn : Option (List String) := none
  args : Option (List String) := none
  argTests : List ArgTest := []
  argsCount : Option Nat := none
  custom : Option (Token → Bool) := none

namespace Criteria

def any : Criteria := {}

/-- The criteria of a shorthand: a name alone constrains only the name, and a name with arguments
also asks for exactly these arguments. -/
def parse (shorthand : String) : Except QueryError Criteria := do
  let (name, args) ← Shorthand.split shorthand
  return { name := some name, args := if args.isEmpty then none else some args }

def withName (criteria : Criteria) (name : String) : Criteria := { criteria with name := some name }

def withNamePattern (criteria : Criteria) (pattern : String) : Criteria :=
  { criteria with namePattern := some pattern }

def withNameIn (criteria : Criteria) (names : List String) : Criteria :=
  { criteria with nameIn := some names }

def withArgs (criteria : Criteria) (args : List String) : Criteria :=
  { criteria with args := some args }

def withArgsCount (criteria : Criteria) (count : Nat) : Criteria :=
  { criteria with argsCount := some count }

def matching (criteria : Criteria) (custom : Token → Bool) : Criteria :=
  { criteria with custom := some custom }

/-- Changes the first test of a position, or adds one at the end when the position has none. -/
def modifyTest (position : Nat) (change : ArgTest → ArgTest) : List ArgTest → List ArgTest
  | [] => [change { position }]
  | test :: rest =>
    if test.position = position then change test :: rest
    else test :: modifyTest position change rest

def withArg (criteria : Criteria) (position : Nat) (exact : String) : Criteria :=
  { criteria with
    argTests := modifyTest position ({ · with exact := some exact }) criteria.argTests }

/-- Asks for an argument at a position that a pattern matches. -/
def withArgPattern (criteria : Criteria) (position : Nat) (pattern : String) : Criteria :=
  { criteria with
    argTests := modifyTest position ({ · with pattern := some pattern }) criteria.argTests }

def withArgIn (criteria : Criteria) (position : Nat) (values : List String) : Criteria :=
  { criteria with
    argTests := modifyTest position ({ · with oneOf := some values }) criteria.argTests }

def readPattern (pattern : String) : Except QueryError TextTest :=
  match Pattern.anchored pattern with
  | .error cause => .error (.pattern cause)
  | .ok expr => .ok (.pattern expr)

/-- The tests of one text: the exact text, the pattern and the set, as far as they are given. -/
def textTests (exact pattern : Option String) (oneOf : Option (List String)) :
    Except QueryError (List TextTest) := do
  let patterns ← pattern.toList.mapM readPattern
  return exact.toList.map .exact ++ patterns ++ oneOf.toList.map .oneOf

/-- The tests give the argument at this position both a pattern and a set. -/
def clashes (tests : List ArgTest) (position : Nat) : Bool :=
  tests.any (fun test => test.position == position && test.pattern.isSome) &&
    tests.any (fun test => test.position == position && test.oneOf.isSome)

/-- Compiles one test of an argument, in view of all the tests. -/
def compileTest (all : List ArgTest) (test : ArgTest) :
    Except QueryError (List (Nat × TextTest)) := do
  if clashes all test.position then throw (.ambiguous (.argumentTest test.position))
  return (← textTests test.exact test.pattern test.oneOf).map (test.position, ·)

/-- Checks the criteria and reads their patterns. A text cannot be asked to match a pattern and to
be in a set as well. -/
def compile (criteria : Criteria) : Except QueryError Matcher := do
  if criteria.namePattern.isSome && criteria.nameIn.isSome then throw (.ambiguous .nameTest)
  let name ← textTests criteria.name criteria.namePattern criteria.nameIn
  let argTests ← criteria.argTests.mapM (compileTest criteria.argTests)
  return {
    name
    args := criteria.args
    argTests := argTests.flatten
    argsCount := criteria.argsCount
    custom := criteria.custom }

end Criteria

/-- What a query accepts as a specification: a shorthand, read when it is used, or criteria. -/
inductive Spec where
  | shorthand (text : String)
  | criteria (criteria : Criteria)

namespace Spec

instance : Coe String Spec := ⟨.shorthand⟩

instance : Coe Criteria Spec := ⟨.criteria⟩

def toCriteria : Spec → Except QueryError Criteria
  | shorthand text => Criteria.parse text
  | criteria given => .ok given

def compile (spec : Spec) : Except QueryError Matcher := do (← spec.toCriteria).compile

end Spec

end TokenQuery
