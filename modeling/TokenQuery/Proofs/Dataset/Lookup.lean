import TokenQuery.Proofs.Dataset.Reachable

/-!
Looking up the sources of a dataset by their names. Main statement: in every dataset that changes
have reached, the index and the list of sources agree exactly, so that a name finds its source
wherever there is one, to read it or to change it (`index_agrees_with_sources`).
-/

set_option autoImplicit false

namespace TokenQuery

/-- What a sequence can undergo in its place. -/
inductive Sequence.Operation where
  | push (token : Token)
  | extend (tokens : List Token)
  | setArgs (index : Nat) (args : List String)
  | apply (batch : List Edit)

/-- The sequence after an operation. A batch that fails leaves it as it was. -/
def Sequence.perform (sequence : Sequence) : Operation → Sequence
  | .push token => sequence.push token
  | .extend tokens => sequence.extend tokens
  | .setArgs index args => sequence.setArgs index args
  | .apply batch =>
    match (sequence.apply batch).result with
    | .ok (_, after) => after
    | .error _ => sequence

namespace Dataset

/-- The dataset after an operation on the source that a name finds. A name that finds none leaves it
as it was. -/
def operated (dataset : Dataset) (name : String) (operation : Sequence.Operation) : Dataset :=
  match dataset.source? name with
  | none => dataset
  | some source =>
    { dataset with
      sequences := dataset.sequences.set source.position (source.sequence.perform operation) }

variable {dataset after : Dataset} {name : String} {source : Source} {sequence : Sequence}
  {position : Nat}

theorem reachable_ofSequences (sequences : List Sequence) : (ofSequences sequences).Reachable :=
  .step (.extend sequences) (.empty .standard .standard 0)

private theorem operated_of_modifyTokens {operation : Sequence.Operation}
    {change : Sequence → List Token}
    (same : ∀ sequence : Sequence,
      sequence.perform operation = { sequence with tokens := change sequence }) :
    dataset.operated name operation = (Change.modifyTokens name change).perform dataset := by
  rw [operated, Change.perform, modifyTokens?]
  cases dataset.source? name with
  | none => rfl
  | some source =>
    simp only [same]
    rfl

private theorem operated_apply (batch : List Edit) :
    dataset.operated name (.apply batch) = (Change.applyTo name batch).perform dataset := by
  rw [operated, Change.perform, applyTo?]
  cases found : dataset.source? name with
  | none => rfl
  | some source =>
    simp only [Option.bind_eq_bind, Option.bind_some, Option.pure_def, Option.map_some,
      Option.getD_some, settled, Sequence.perform, Sequence.apply]
    cases staging : source.sequence.stage batch with
    | ok staged => rfl
    | error error =>
      have there := getElem?_of_source? found
      obtain ⟨inside, atPosition⟩ := List.getElem?_eq_some_iff.mp there
      have unchanged :
          dataset.sequences.set source.position source.sequence = dataset.sequences := by
        rw [← atPosition, List.set_getElem_self]
      show { dataset with sequences := dataset.sequences.set source.position source.sequence } =
        dataset
      rw [unchanged]

/-- What a source undergoes in its place leads from one reachable dataset to another. -/
private theorem Reachable.operated (reachable : dataset.Reachable) (name : String)
    (operation : Sequence.Operation) : (dataset.operated name operation).Reachable := by
  cases operation with
  | push token =>
    rw [operated_of_modifyTokens fun sequence => rfl]
    exact reachable.step _
  | extend tokens =>
    rw [operated_of_modifyTokens fun sequence => rfl]
    exact reachable.step _
  | setArgs index args =>
    rw [operated_of_modifyTokens fun sequence => rfl]
    exact reachable.step _
  | apply batch =>
    rw [operated_apply]
    exact reachable.step _

private theorem mem_sources_iff :
    source ∈ dataset.sources ↔
      source.store = dataset.store ∧
        dataset.sequences[source.position]? = some source.sequence := by
  constructor
  · intro member
    refine ⟨?_, getElem?_of_mem_sources member⟩
    obtain ⟨position, _, rfl⟩ := List.mem_mapIdx.mp member
    rfl
  · obtain ⟨store, position, sequence⟩ := source
    rintro ⟨rfl, there⟩
    obtain ⟨inside, atPosition⟩ := List.getElem?_eq_some_iff.mp there
    exact List.mem_mapIdx.mpr ⟨position, inside, congrArg (Source.mk _ _) atPosition⟩

theorem mem_sources_of_source? (found : dataset.source? name = some source) :
    source ∈ dataset.sources := by
  refine mem_sources_iff.mpr ⟨?_, getElem?_of_source? found⟩
  simp only [source?, Option.bind_eq_bind, Option.bind_eq_some_iff, Option.pure_def,
    Option.some.injEq] at found
  obtain ⟨_, _, _, _, rfl⟩ := found
  rfl

theorem Indexed.source?_eq_some_iff (indexed : dataset.Indexed) :
    dataset.source? name = some source ↔
      source ∈ dataset.sources ∧ source.sequence.name = name := by
  constructor
  · intro found
    refine ⟨mem_sources_of_source? found, ?_⟩
    -- The index gives the name at the position, and the position gives the sequence.
    have there := getElem?_of_source? found
    simp only [source?, Option.bind_eq_bind, Option.bind_eq_some_iff, Option.pure_def,
      Option.some.injEq] at found
    obtain ⟨position, listed, sequence, _, rfl⟩ := found
    obtain ⟨_, there', same⟩ := indexed.name_eq listed
    obtain rfl := Option.some.inj (there.symm.trans there')
    exact same
  · obtain ⟨store, position, sequence⟩ := source
    rw [mem_sources_iff]
    rintro ⟨⟨rfl, there⟩, rfl⟩
    dsimp only at there
    simp only [source?, indexed.index_eq there, there, Option.bind_eq_bind, Option.bind_some,
      Option.pure_def]

private theorem Indexed.source?_eq_none_iff (indexed : dataset.Indexed) :
    dataset.source? name = none ↔ name ∉ dataset.names := by
  constructor
  · intro missing listed
    obtain ⟨sequence, member, same⟩ := List.mem_map.mp listed
    obtain ⟨position, there⟩ := List.mem_iff_getElem?.mp member
    have found : dataset.source? name = some ⟨dataset.store, position, sequence⟩ :=
      indexed.source?_eq_some_iff.mpr ⟨mem_sources_iff.mpr ⟨rfl, there⟩, same⟩
    rw [missing] at found
    cases found
  · intro unlisted
    cases found : dataset.source? name with
    | none => rfl
    | some source =>
      obtain ⟨member, same⟩ := indexed.source?_eq_some_iff.mp found
      have there := List.mem_of_getElem? (getElem?_of_mem_sources member)
      exact absurd (List.mem_map.mpr ⟨source.sequence, there, same⟩) unlisted

theorem Indexed.map_named (indexed : dataset.Indexed)
    (there : dataset.sequences[position]? = some sequence) (change : Sequence → Sequence) :
    (dataset.sequences.map fun other =>
        if other.name = sequence.name then change other else other) =
      dataset.sequences.set position (change sequence) := by
  apply List.ext_getElem?
  intro i
  rw [List.getElem?_map, List.getElem?_set]
  by_cases here : position = i
  · subst here
    obtain ⟨inside, _⟩ := List.getElem?_eq_some_iff.mp there
    rw [there, if_pos rfl, if_pos inside, Option.map_some, if_pos rfl]
  · rw [if_neg here]
    cases elsewhere : dataset.sequences[i]? with
    | none => rfl
    | some other =>
      have differs : other.name ≠ sequence.name := by
        intro same
        have atOther := indexed.index_eq elsewhere
        rw [same, indexed.index_eq there] at atOther
        exact here (Option.some.inj atOther)
      rw [Option.map_some, if_neg differs]

private theorem Indexed.modifyTokens?_eq (indexed : dataset.Indexed) (name : String)
    (change : Sequence → List Token) :
    dataset.modifyTokens? name change =
      if name ∈ dataset.names then
        some { dataset with
          sequences := dataset.sequences.map fun sequence =>
            if sequence.name = name then { sequence with tokens := change sequence }
            else sequence }
      else none := by
  cases found : dataset.source? name with
  | none =>
    rw [if_neg (indexed.source?_eq_none_iff.mp found)]
    simp only [modifyTokens?, found, Option.bind_eq_bind, Option.bind_none]
  | some source =>
    obtain ⟨member, rfl⟩ := indexed.source?_eq_some_iff.mp found
    have there := getElem?_of_mem_sources member
    have listed : source.sequence.name ∈ dataset.names :=
      List.mem_map.mpr ⟨_, List.mem_of_getElem? there, rfl⟩
    rw [if_pos listed, indexed.map_named there fun sequence =>
      { sequence with tokens := change sequence }]
    simp only [modifyTokens?, found, Option.bind_eq_bind, Option.bind_some, Option.pure_def]

/-- The index of a reachable dataset maps a name to a position exactly when the source there has the
name. So no two sources have one name, the index has an entry for each source and none beyond them,
and a name finds its source, to read it or to change it, exactly when there is one. Sources made at
once and sources changed in their places make no exception. -/
theorem index_agrees_with_sources (reachable : dataset.Reachable) :
    (∀ name position, dataset.index[name]? = some position ↔
      ∃ inside : position < dataset.sequences.length, dataset.sequences[position].name = name) ∧
    dataset.names.Nodup ∧ dataset.index.size = dataset.sequences.length ∧
    (∀ name source, dataset.source? name = some source ↔
      source ∈ dataset.sources ∧ source.sequence.name = name) ∧
    (∀ name, dataset.source? name = none ↔ name ∉ dataset.names) ∧
    (∀ name change, dataset.modifyTokens? name change =
      if name ∈ dataset.names then
        some { dataset with
          sequences := dataset.sequences.map fun sequence =>
            if sequence.name = name then { sequence with tokens := change sequence }
            else sequence }
      else none) ∧
    (∀ name operation, (dataset.operated name operation).Reachable) ∧
    ∀ sequences, (ofSequences sequences).Reachable := by
  have indexed := reachable.indexed
  refine ⟨?_, indexed.nodup_names, indexed.size_index, fun _ _ => indexed.source?_eq_some_iff,
    fun _ => indexed.source?_eq_none_iff, indexed.modifyTokens?_eq, reachable.operated,
    reachable_ofSequences⟩
  intro name position
  rw [indexed.index_eq_some_iff, List.getElem?_eq_some_iff]
  simp only [names, List.length_map, List.getElem_map]

private def revised : Dataset :=
  ((Change.addSource ⟨"a", [.bare "g"]⟩).perform (ofSequences [⟨"a", [.bare "f"]⟩, ⟨"b", []⟩])
    |>.operated "b" (.push (.bare "k"))).operated "a" (.apply [⟨⟨"a", 3⟩, .remove⟩])

private theorem revised_reachable : revised.Reachable :=
  (((reachable_ofSequences _).step _).operated _ _).operated _ _

/-- A source that was replaced, one that was changed in its place, and a batch that failed. -/
theorem index_agrees_in_revised :
    revised.index["a"]? = some 0 ∧ revised.index["b"]? = some 1 ∧ revised.index.size = 2 ∧
      revised.source? "b" = some ⟨0, 1, ⟨"b", [.bare "k"]⟩⟩ ∧ revised.source? "c" = none := by
  obtain ⟨position_iff, _, size, found_iff, missing_iff, _⟩ :=
    index_agrees_with_sources revised_reachable
  exact ⟨(position_iff _ _).mpr ⟨by decide, by decide⟩,
    (position_iff _ _).mpr ⟨by decide, by decide⟩, size,
    (found_iff _ _).mpr ⟨by decide, by decide⟩, (missing_iff _).mpr (by decide)⟩

end Dataset

end TokenQuery
