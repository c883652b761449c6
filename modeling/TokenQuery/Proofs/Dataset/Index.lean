import TokenQuery.Dataset

/-!
The index of a dataset. It holds exactly the positions of the names of the sources; adding a source
keeps it so, as does everything that leaves the names and the index alone.
-/

set_option autoImplicit false

namespace TokenQuery.Dataset

/-- The names of the sources, in their order. -/
def names (dataset : Dataset) : List String := dataset.sequences.map (·.name)

/-- The index maps a name to a position exactly when the source at that position has the name. -/
structure Indexed (dataset : Dataset) : Prop where
  index_eq_some_iff : ∀ (name : String) (position : Nat),
    dataset.index[name]? = some position ↔ dataset.names[position]? = some name
  size_index : dataset.index.size = dataset.sequences.length

variable {dataset after : Dataset} {sequence : Sequence} {name : String} {position : Nat}

theorem indexed_empty (resolver : Resolver) (scope : ScopeRules) (store : Nat) :
    Indexed { resolver, scope, store } := by
  constructor
  · intro name position
    simp [names]
  · rfl

theorem Indexed.of_names_eq (indexed : dataset.Indexed) (index : after.index = dataset.index)
    (names : after.names = dataset.names) : after.Indexed := by
  constructor
  · intro name position
    rw [index, names]
    exact indexed.index_eq_some_iff name position
  · have length := congrArg List.length names
    simp only [Dataset.names, List.length_map] at length
    rw [index, indexed.size_index, length]

theorem Indexed.name_eq (indexed : dataset.Indexed) (found : dataset.index[name]? = some position) :
    ∃ sequence, dataset.sequences[position]? = some sequence ∧ sequence.name = name := by
  have there := (indexed.index_eq_some_iff name position).mp found
  rw [names, List.getElem?_map] at there
  exact Option.map_eq_some_iff.mp there

theorem Indexed.index_eq (indexed : dataset.Indexed)
    (there : dataset.sequences[position]? = some sequence) :
    dataset.index[sequence.name]? = some position := by
  rw [indexed.index_eq_some_iff, names, List.getElem?_map, there, Option.map_some]

theorem Indexed.index_eq_none_iff (indexed : dataset.Indexed) :
    dataset.index[name]? = none ↔ ∀ sequence ∈ dataset.sequences, sequence.name ≠ name := by
  constructor
  · intro absent sequence member same
    obtain ⟨position, there⟩ := List.mem_iff_getElem?.mp member
    have found := indexed.index_eq there
    rw [same, absent] at found
    cases found
  · intro differ
    cases found : dataset.index[name]? with
    | none => rfl
    | some position =>
      obtain ⟨sequence, there, same⟩ := indexed.name_eq found
      exact absurd same (differ sequence (List.mem_of_getElem? there))

theorem Indexed.nodup_names (indexed : dataset.Indexed) : dataset.names.Nodup := by
  rw [List.nodup_iff_pairwise_ne, List.pairwise_iff_getElem]
  intro i j hi hj before same
  have atI := (indexed.index_eq_some_iff _ _).mpr (List.getElem?_eq_getElem hi)
  have atJ := (indexed.index_eq_some_iff _ _).mpr (List.getElem?_eq_getElem hj)
  rw [← same, atI] at atJ
  exact absurd (Option.some.inj atJ) (Nat.ne_of_lt before)

theorem names_set {sequences : List Sequence} {old : Sequence}
    (there : sequences[position]? = some old) (same : sequence.name = old.name) :
    (sequences.set position sequence).map (·.name) = sequences.map (·.name) := by
  have nameThere : (sequences.map (·.name))[position]? = some sequence.name := by
    rw [List.getElem?_map, there, Option.map_some, same]
  obtain ⟨inside, atPosition⟩ := List.getElem?_eq_some_iff.mp nameThere
  rw [List.map_set, ← atPosition, List.set_getElem_self]

theorem Indexed.append (indexed : dataset.Indexed)
    (fresh : dataset.index[sequence.name]? = none) :
    Indexed { dataset with
      sequences := dataset.sequences ++ [sequence]
      index := dataset.index.insert sequence.name dataset.size } := by
  constructor
  · intro name position
    have namesAfter : (dataset.sequences ++ [sequence]).map (·.name) =
        dataset.names ++ [sequence.name] := by simp [names]
    have length : dataset.names.length = dataset.size := by simp [names, size]
    rw [names, namesAfter, Std.TreeMap.getElem?_insert]
    by_cases same : sequence.name = name
    · subst same
      have elsewhere : dataset.names[position]? ≠ some sequence.name := by
        intro there
        have found := (indexed.index_eq_some_iff _ _).mpr there
        rw [fresh] at found
        cases found
      rw [if_pos Std.ReflCmp.compare_self, Option.some_inj]
      by_cases before : position < dataset.names.length
      · rw [List.getElem?_append_left before]
        constructor
        · intro last
          omega
        · intro there
          exact absurd there elsewhere
      · rw [List.getElem?_append_right (by omega), List.getElem?_singleton]
        by_cases last : position = dataset.names.length
        · rw [if_pos (by omega)]
          simp only [iff_true]
          omega
        · rw [if_neg (by omega)]
          simp only [reduceCtorEq, iff_false]
          omega
    · have differs : ¬ compare sequence.name name = .eq := by
        rw [Std.LawfulEqCmp.compare_eq_iff_eq]
        exact same
      rw [if_neg differs, indexed.index_eq_some_iff]
      by_cases before : position < dataset.names.length
      · rw [List.getElem?_append_left before]
      · rw [List.getElem?_append_right (by omega), List.getElem?_singleton,
          List.getElem?_eq_none (by omega)]
        by_cases last : position - dataset.names.length = 0
        · rw [if_pos last]
          simp only [reduceCtorEq, Option.some_inj, false_iff]
          exact same
        · rw [if_neg last]
  · have absent : ¬ dataset.index.contains sequence.name = true := by
      rw [Std.TreeMap.contains_eq_isSome_getElem?, fresh]
      exact Bool.false_ne_true
    rw [Std.TreeMap.size_insert, if_neg absent, indexed.size_index, List.length_append,
      List.length_singleton]

theorem Indexed.addSource (indexed : dataset.Indexed) (sequence : Sequence) :
    (dataset.addSource sequence).Indexed := by
  cases found : dataset.index[sequence.name]? with
  | some position =>
    obtain ⟨old, there, same⟩ := indexed.name_eq found
    have replaced : dataset.addSource sequence =
        { dataset with sequences := dataset.sequences.set position sequence } := by
      simp only [Dataset.addSource, found]
    rw [replaced]
    exact indexed.of_names_eq rfl (names_set there same.symm)
  | none =>
    have appended : dataset.addSource sequence =
        { dataset with
          sequences := dataset.sequences ++ [sequence]
          index := dataset.index.insert sequence.name dataset.size } := by
      simp only [Dataset.addSource, found]
    rw [appended]
    exact indexed.append found

end TokenQuery.Dataset
