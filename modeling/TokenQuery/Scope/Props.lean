import TokenQuery.Scan
import TokenQuery.Scope.Rules

/-!
The properties of a record: questions about the tokens between its owner and the end of its scope.
-/

set_option autoImplicit false

namespace TokenQuery

/-- The properties of one owner token, under scope rules and a traversal. -/
structure Props where
  owner : Handle
  rules : ScopeRules := .standard
  traversal : Traversal := {}
  deriving DecidableEq

namespace Props

def boundary (props : Props) : Criteria := props.rules.boundary props.owner.token

/-- The pass over the tokens after the owner, or before it. -/
def scan (props : Props) : Except QueryError Scan := Scan.of props.owner props.traversal

def get (props : Props) (spec : Spec) : Traced (Option Handle) := do
  (← props.scan).getBefore spec props.boundary

def last (props : Props) (spec : Spec) : Traced (Option Handle) := do
  (← props.scan).lastBefore spec props.boundary

def all (props : Props) (spec : Spec) : Traced (List Handle) := do
  (← props.scan).allBefore spec props.boundary

def tokens (props : Props) : Traced (List Handle) := do
  (← props.scan).before props.boundary

end Props

def Handle.props (owner : Handle) : Props := { owner }

end TokenQuery
