import TokenQuery.Pattern.Grammar
import TokenQuery.Token

/-!
Matchers: tests of texts, and tests of tokens made of them. A matcher holds what criteria become
once their patterns are read.
-/

set_option autoImplicit false

namespace TokenQuery

/-- A test of one text. -/
inductive TextTest where
  | exact (text : String)
  | pattern (expr : Pattern.Expr)
  | oneOf (texts : List String)
  deriving DecidableEq

def TextTest.accepts : TextTest → String → Bool
  | exact expected, text => expected == text
  | pattern expr, text => expr.occursIn text.toList
  | oneOf texts, text => texts.contains text

/-- Compiled criteria, ready to be tested against tokens. -/
structure Matcher where
  name : List TextTest := []
  args : Option (List String) := none
  argTests : List (Nat × TextTest) := []
  argsCount : Option Nat := none
  custom : Option (Token → Bool) := none

namespace Matcher

def any : Matcher := {}

/-- The token passes every test. A test of an argument fails where the token has no such
argument. -/
def accepts (matcher : Matcher) (token : Token) : Bool :=
  matcher.name.all (·.accepts token.name) &&
    matcher.argsCount.all (· == token.nargs) &&
    matcher.args.all (· == token.args) &&
    matcher.argTests.all (fun (position, test) => (token.arg? position).any test.accepts) &&
    matcher.custom.all (· token)

@[simp] theorem accepts_any (token : Token) : any.accepts token = true := rfl

end Matcher

end TokenQuery
