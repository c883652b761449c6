import TokenQuery.Query
import TokenQuery.Traversal

/-!
Single questions about one pass of tokens. Each of them runs a query of one or two filters:

* `get`, `contains`: the target with limit one, terminating;
* `last`, `all`: the target;
* `before`: the boundary with limit one, terminating, then every token;
* `getBefore`, `lastBefore`, `allBefore`: the boundary with limit one, terminating, then the target.

The specifications are compiled before the first token is read.
-/

set_option autoImplicit false

namespace TokenQuery

/-- One pass over some tokens. -/
structure Scan where
  handles : List Handle

namespace Scan

/-- The pass of a token source under a traversal, unless the traversal is refused. -/
def of {σ : Type} [Scannable σ] (target : σ) (traversal : Traversal) : Except QueryError Scan := do
  return ⟨← pass target traversal⟩

def query (scan : Scan) (query : Query) : Traced (Query × Outcome) := query.execute scan.handles

/-- Runs filters over the pass, and keeps the matches of the one at a position. -/
def resultOf (scan : Scan) (filters : List Filter) (position : Nat) : Traced (Array Handle) := do
  let (after, _) ← scan.query ⟨filters⟩
  return after.resultAt position

def get (scan : Scan) (spec : Spec) : Traced (Option Handle) := do
  let target ← Filter.ofSpec spec
  let found ← scan.resultOf [(target.withLimit 1).terminate] 0
  return found[0]?

def last (scan : Scan) (spec : Spec) : Traced (Option Handle) := do
  let target ← Filter.ofSpec spec
  let found ← scan.resultOf [target] 0
  return found.back?

def all (scan : Scan) (spec : Spec) : Traced (List Handle) := do
  let target ← Filter.ofSpec spec
  let found ← scan.resultOf [target] 0
  return found.toList

def contains (scan : Scan) (spec : Spec) : Traced Bool := do
  return (← scan.get spec).isSome

def boundaryFilter (boundary : Spec) : Except QueryError Filter := do
  return ((← Filter.ofSpec boundary).withLimit 1).terminate

def before (scan : Scan) (boundary : Spec) : Traced (List Handle) := do
  let boundary ← boundaryFilter boundary
  let found ← scan.resultOf [boundary, .any] 1
  return found.toList

def getBefore (scan : Scan) (spec boundary : Spec) : Traced (Option Handle) := do
  let target ← Filter.ofSpec spec
  let boundary ← boundaryFilter boundary
  let found ← scan.resultOf [boundary, target.withLimit 1] 1
  return found[0]?

def lastBefore (scan : Scan) (spec boundary : Spec) : Traced (Option Handle) := do
  let target ← Filter.ofSpec spec
  let boundary ← boundaryFilter boundary
  let found ← scan.resultOf [boundary, target] 1
  return found.back?

def allBefore (scan : Scan) (spec boundary : Spec) : Traced (List Handle) := do
  let target ← Filter.ofSpec spec
  let boundary ← boundaryFilter boundary
  let found ← scan.resultOf [boundary, target] 1
  return found.toList

end Scan

end TokenQuery
