import TokenQuery.Entries
import TokenQuery.Event
import TokenQuery.Filter

/-!
Queries: several filters that run together over one pass of tokens.

A terminating filter that reaches its limit ends the pass for all filters at once, before the
filters after it have seen the current token.
-/

set_option autoImplicit false

namespace TokenQuery

/-- How a run of a query ended: the number of tokens consumed, and the position of the terminating
filter that ended the run, if one did. -/
structure Outcome where
  scanned : Nat := 0
  stoppedBy : Option Nat := none
  deriving DecidableEq

namespace Outcome

def terminated (outcome : Outcome) : Bool := outcome.stoppedBy.isSome

/-- What a run of so many filters with this outcome notes. -/
def events (outcome : Outcome) (filters : Nat) : List Event :=
  outcome.stoppedBy.toList.map .limitReached ++
    [.queryExecuted filters outcome.scanned outcome.terminated]

end Outcome

/-- An ordered list of filters. -/
structure Query where
  filters : List Filter := []

namespace Query

def push (query : Query) (filter : Filter) : Query := ⟨query.filters ++ [filter]⟩

def size (query : Query) : Nat := query.filters.length

def labelled? (query : Query) (label : String) : Option Filter :=
  query.filters.find? (·.label == some label)

/-- The matches of the labelled filters by label. Of filters with one label the last one counts. -/
def results (query : Query) : List (String × Array Handle) :=
  query.filters.foldl (fun entries filter =>
    match filter.label with
    | none => entries
    | some label => Entries.set label filter.result entries) []

def resultAt (query : Query) (position : Nat) : Array Handle :=
  (query.filters[position]?.map (·.result)).getD #[]

/-- Shows a token to the filters in order, the first of which is at `position`. A saturated filter
is passed over. The second component is the position of the terminating filter that has now reached
its limit; the filters after it are not shown the token. -/
def offer (handle : Handle) (position : Nat) : List Filter → List Filter × Option Nat
  | [] => ([], none)
  | filter :: rest =>
    if filter.saturated then
      let (rest, stop) := offer handle (position + 1) rest
      (filter :: rest, stop)
    else
      let filter := filter.offered handle
      if filter.terminating && filter.reachedLimit then (filter :: rest, some position)
      else
        let (rest, stop) := offer handle (position + 1) rest
        (filter :: rest, stop)

/-- Shows tokens to the filters one after another until a terminating filter ends the pass;
`scanned` tokens came before. -/
def scan (scanned : Nat) (filters : List Filter) : List Handle → List Filter × Outcome
  | [] => (filters, ⟨scanned, none⟩)
  | handle :: rest =>
    match offer handle 0 filters with
    | (filters, some position) => (filters, ⟨scanned + 1, some position⟩)
    | (filters, none) => scan (scanned + 1) filters rest

/-- Runs every filter over one pass of tokens, after dropping the matches of an earlier run. -/
def run (query : Query) (handles : List Handle) : Query × Outcome :=
  let (filters, outcome) := scan 0 (query.filters.map .cleared) handles
  (⟨filters⟩, outcome)

def execute (query : Query) (handles : List Handle) : Traced (Query × Outcome) := do
  let (after, outcome) := query.run handles
  Traced.noteAll (outcome.events query.size)
  return (after, outcome)

end Query

end TokenQuery
