import Std.Data.TreeMap
import TokenQuery.Edit
import TokenQuery.Object.Resolver
import TokenQuery.Scope.Dictionary

/-!
Datasets: named sources in the order in which they were added, an index of their names, and the
rules of a dialect. As a token source a dataset is the chain of all its sources.
-/

set_option autoImplicit false

namespace TokenQuery

/-- Named sequences with the position of each name. `store` tells the copies of a dataset apart. -/
structure Dataset where
  sequences : List Sequence := []
  index : Std.TreeMap String Nat := {}
  resolver : Resolver := .standard
  scope : ScopeRules := .standard
  store : Nat := 0

namespace Dataset

def size (dataset : Dataset) : Nat := dataset.sequences.length

def sources (dataset : Dataset) : List Source :=
  dataset.sequences.mapIdx fun position sequence => ⟨dataset.store, position, sequence⟩

def source? (dataset : Dataset) (name : String) : Option Source := do
  let position ← dataset.index[name]?
  let sequence ← dataset.sequences[position]?
  return ⟨dataset.store, position, sequence⟩

def at? (dataset : Dataset) (location : Location) : Option Handle := do
  (← dataset.source? location.source).at? location.index

def copy (dataset : Dataset) : Dataset := { dataset with store := dataset.store + 1 }

/-- Adds a source. A source with the same name is replaced in its place. -/
def addSource (dataset : Dataset) (sequence : Sequence) : Dataset :=
  match dataset.index[sequence.name]? with
  | some position => { dataset with sequences := dataset.sequences.set position sequence }
  | none =>
    { dataset with
      sequences := dataset.sequences ++ [sequence]
      index := dataset.index.insert sequence.name dataset.size }

def extend (dataset : Dataset) (sequences : List Sequence) : Dataset :=
  sequences.foldl addSource dataset

/-- The dataset of some sources under the standard rules. -/
def ofSequences (sequences : List Sequence) : Dataset := ({} : Dataset).extend sequences

/-- Changes the tokens of the source with a name; the name stays as it is. -/
def modifyTokens? (dataset : Dataset) (name : String) (change : Sequence → List Token) :
    Option Dataset := do
  let source ← dataset.source? name
  let changed := { source.sequence with tokens := change source.sequence }
  return { dataset with sequences := dataset.sequences.set source.position changed }

/-- The properties of a token under the rules of the dataset. -/
def props (dataset : Dataset) (owner : Handle) : Props := { owner, rules := dataset.scope }

def editsAt (dataset : Dataset) (edits : List Edit) (position : Nat) : List Edit :=
  edits.filter fun edit => dataset.index[edit.location.source]? == some position

/-- Every edit of the batch names a source of the dataset. -/
def checkSources (dataset : Dataset) (edits : List Edit) : Except QueryError Unit :=
  match edits.find? fun edit => dataset.index[edit.location.source]?.isNone with
  | none => .ok ()
  | some edit => .error (.edit (.unknownSource edit.location.source))

def stageAt (dataset : Dataset) (edits : List Edit) (source : Source) :
    Except QueryError (List (Source × Staged)) :=
  match dataset.editsAt edits source.position with
  | [] => .ok []
  | edits => do return [(source, ← source.sequence.stage edits)]

/-- Stages the edits for each of the sources that has any, in the order of the sources. -/
def stage (dataset : Dataset) (edits : List Edit) : Except QueryError (List (Source × Staged)) := do
  dataset.checkSources edits
  let staged ← dataset.sources.mapM (dataset.stageAt edits)
  return staged.flatten

def commit (dataset : Dataset) (staged : List (Source × Staged)) : Dataset :=
  { dataset with
    sequences := staged.foldl (fun sequences (source, batch) =>
      sequences.set source.position (source.sequence.commit batch)) dataset.sequences }

/-- Applies a batch across sources, all of it or, on an error, nothing. The result is the number of
edits and the dataset after them. -/
def apply (dataset : Dataset) (edits : List Edit) : Traced (Nat × Dataset) := do
  let staged ← dataset.stage edits
  Traced.noteAll (staged.map fun (source, batch) => source.sequence.commitEvent batch)
  let applied := staged.foldl (fun total (_, batch) => total + batch.edits) 0
  Traced.note (.datasetEdited staged.length applied)
  return (applied, dataset.commit staged)

/-- A dataset with a staged batch committed to the sequence at one place. -/
def commitAt (dataset : Dataset) (source : Source) (staged : Staged) : Dataset :=
  { dataset with sequences := dataset.sequences.modify source.position (·.commit staged) }

/-- Commits the staged batches of a plan to a kept dataset, one source after another. -/
def commitInPlace (total : Nat) (plan : List (Source × Staged)) :
    ExceptT QueryError (StateM Dataset) Nat :=
  plan.foldlM (fun total (source, staged) => do
    modify (·.commitAt source staged)
    return total + staged.edits) total

/-- Applies a batch to a kept dataset, whose sources change one after another. -/
def applyInPlace (batch : List Edit) : ExceptT QueryError (StateM Dataset) Nat := do
  let plan ← ExceptT.mk (return (← get).stage batch)
  commitInPlace 0 plan

def applyTo? (dataset : Dataset) (name : String) (edits : List Edit) :
    Option (Traced (Nat × Dataset)) := do
  let source ← dataset.source? name
  return do
    let (applied, sequence) ← source.sequence.apply edits
    return (applied,
      { dataset with sequences := dataset.sequences.set source.position sequence })

instance : Scannable Dataset where
  tokens dataset traversal :=
    let sources := if traversal.reverse then dataset.sources.reverse else dataset.sources
    traversal.limited (sources.flatMap (Scannable.tokens · traversal.unbounded))

end Dataset

end TokenQuery
