import TokenQuery.Proofs.Dataset.Batch

/-!
The datasets that come from an empty one by adding sources and changing tokens. Main statement: the
index of every such dataset holds exactly the positions of its names (`Reachable.indexed`).
-/

set_option autoImplicit false

namespace TokenQuery.Dataset

/-- What can happen to a dataset. A change of the tokens of one source reads the source. -/
inductive Change where
  | addSource (sequence : Sequence)
  | extend (sequences : List Sequence)
  | modifyTokens (name : String) (change : Sequence → List Token)
  | apply (batch : List Edit)
  | applyTo (name : String) (batch : List Edit)
  | copy

/-- A dataset once an edit of it is over. One that fails leaves it as it was. -/
def settled (dataset : Dataset) (outcome : Traced (Nat × Dataset)) : Dataset :=
  match outcome.result with
  | .ok (_, after) => after
  | .error _ => dataset

/-- The dataset after a change. One that names no source leaves it as it was. -/
def Change.perform (dataset : Dataset) : Change → Dataset
  | addSource sequence => dataset.addSource sequence
  | extend sequences => dataset.extend sequences
  | modifyTokens name change => (dataset.modifyTokens? name change).getD dataset
  | apply batch => dataset.settled (dataset.apply batch)
  | applyTo name batch => ((dataset.applyTo? name batch).map dataset.settled).getD dataset
  | copy => dataset.copy

/-- The datasets that changes reach from an empty one. -/
inductive Reachable : Dataset → Prop
  | empty (resolver : Resolver) (scope : ScopeRules) (store : Nat) :
      Reachable { resolver, scope, store }
  | step {dataset : Dataset} (change : Change) :
      Reachable dataset → Reachable (change.perform dataset)

variable {dataset after : Dataset} {name : String} {source : Source} {sequence : Sequence}

theorem Indexed.extend (indexed : dataset.Indexed) (sequences : List Sequence) :
    (dataset.extend sequences).Indexed := by
  induction sequences generalizing dataset with
  | nil => exact indexed
  | cons sequence rest ih => exact ih (indexed.addSource sequence)

theorem getElem?_of_source? (found : dataset.source? name = some source) :
    dataset.sequences[source.position]? = some source.sequence := by
  simp only [source?, Option.bind_eq_bind, Option.bind_eq_some_iff, Option.pure_def,
    Option.some.injEq] at found
  obtain ⟨position, _, sequence, there, rfl⟩ := found
  exact there

theorem Indexed.set (indexed : dataset.Indexed) (found : dataset.source? name = some source)
    (same : sequence.name = source.sequence.name) :
    Indexed { dataset with sequences := dataset.sequences.set source.position sequence } :=
  indexed.of_names_eq rfl (names_set (getElem?_of_source? found) same)

theorem Indexed.modifyTokens (indexed : dataset.Indexed) (name : String)
    (change : Sequence → List Token) :
    ((dataset.modifyTokens? name change).getD dataset).Indexed := by
  cases found : dataset.source? name with
  | none =>
    have absent : dataset.modifyTokens? name change = none := by
      simp only [modifyTokens?, found, Option.bind_eq_bind, Option.bind_none]
    rw [absent]
    exact indexed
  | some source =>
    have changed : dataset.modifyTokens? name change =
        some { dataset with
          sequences := dataset.sequences.set source.position
            { source.sequence with tokens := change source.sequence } } := by
      simp only [modifyTokens?, found, Option.bind_eq_bind, Option.bind_some, Option.pure_def]
    rw [changed]
    exact indexed.set found rfl

private theorem Indexed.settled_apply (indexed : dataset.Indexed) (batch : List Edit) :
    (dataset.settled (dataset.apply batch)).Indexed := by
  rw [settled, indexed.apply_result]
  cases dataset.firstError? batch with
  | some error => exact indexed
  | none => exact indexed.of_names_eq rfl rewritten_names

private theorem Indexed.settled_applyTo (indexed : dataset.Indexed) (name : String)
    (batch : List Edit) :
    (((dataset.applyTo? name batch).map dataset.settled).getD dataset).Indexed := by
  cases found : dataset.source? name with
  | none =>
    have absent : dataset.applyTo? name batch = none := by
      simp only [applyTo?, found, Option.bind_eq_bind, Option.bind_none]
    rw [absent]
    exact indexed
  | some source =>
    cases staging : source.sequence.stage batch with
    | error error =>
      have fails : (dataset.applyTo? name batch).map dataset.settled = some dataset := by
        simp only [applyTo?, found, Option.bind_eq_bind, Option.bind_some, Option.pure_def,
          Option.map_some, Sequence.apply, staging]
        rfl
      rw [fails]
      exact indexed
    | ok staged =>
      have done : (dataset.applyTo? name batch).map dataset.settled =
          some { dataset with
            sequences :=
              dataset.sequences.set source.position (source.sequence.commit staged) } := by
        simp only [applyTo?, found, Option.bind_eq_bind, Option.bind_some, Option.pure_def,
          Option.map_some, Sequence.apply, staging]
        rfl
      rw [done]
      exact indexed.set found rfl

theorem Indexed.perform (indexed : dataset.Indexed) (change : Change) :
    (change.perform dataset).Indexed := by
  cases change with
  | addSource sequence => exact indexed.addSource sequence
  | extend sequences => exact indexed.extend sequences
  | modifyTokens name change => exact indexed.modifyTokens name change
  | apply batch => exact indexed.settled_apply batch
  | applyTo name batch => exact indexed.settled_applyTo name batch
  | copy => exact indexed.of_names_eq rfl rfl

theorem Reachable.indexed (reachable : dataset.Reachable) : dataset.Indexed := by
  induction reachable with
  | empty resolver scope store => exact indexed_empty resolver scope store
  | step change _ indexed => exact indexed.perform change

end TokenQuery.Dataset
