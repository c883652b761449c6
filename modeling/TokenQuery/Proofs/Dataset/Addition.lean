import TokenQuery.Proofs.Dataset.Lookup

/-!
Adding sources. Main statement: a dataset filled with some sources, in whatever portions, has their
distinct names in the order in which they first came, each with the tokens that came last, and a
further source takes the place of the one with its name or comes last (`sources_of_filled`).
-/

set_option autoImplicit false

namespace TokenQuery.Dataset

/-- The last of some sequences with a name. -/
def lastNamed (name : String) (given : List Sequence) : Option Sequence :=
  (given.filter (·.name = name)).getLast?

/-- The datasets that hold nothing but the sequences given to an empty one, in this order. -/
inductive Filled : List Sequence → Dataset → Prop
  | empty (resolver : Resolver) (scope : ScopeRules) (store : Nat) :
      Filled [] { resolver, scope, store }
  | ofSequences (given : List Sequence) : Filled given (ofSequences given)
  | addSource {given : List Sequence} {dataset : Dataset} (sequence : Sequence) :
      Filled given dataset → Filled (given ++ [sequence]) (dataset.addSource sequence)
  | extend {given : List Sequence} {dataset : Dataset} (more : List Sequence) :
      Filled given dataset → Filled (given ++ more) (dataset.extend more)

/-- The sources have the distinct names of the sequences that were given, in the order of their
first occurrence, and each of them is the last one given under its name. -/
structure Gathers (given : List Sequence) (dataset : Dataset) : Prop where
  names_eq : dataset.names = (given.map (·.name)).eraseDups
  lastNamed_eq : ∀ sequence ∈ dataset.sequences, lastNamed sequence.name given = some sequence

variable {dataset : Dataset} {given : List Sequence} {sequence : Sequence} {name : String}
  {position : Nat}

private theorem eraseDups_concat {α : Type} [DecidableEq α] (items : List α) (item : α) :
    (items ++ [item]).eraseDups =
      if item ∈ items then items.eraseDups else items.eraseDups ++ [item] := by
  rw [List.eraseDups_append]
  by_cases known : item ∈ items
  · simp [List.removeAll, known]
  · simp [List.removeAll, known, List.eraseDups_cons]

private theorem lastNamed_concat (name : String) (given : List Sequence) (sequence : Sequence) :
    lastNamed name (given ++ [sequence]) =
      if sequence.name = name then some sequence else lastNamed name given := by
  rw [lastNamed, List.filter_append, List.filter_singleton]
  by_cases same : sequence.name = name
  · simp [same]
  · simp [same, lastNamed]

/-- A source takes the place of the one with its name, if there is one, and else comes last. All
others stay where and as they are. -/
private theorem Indexed.sequences_addSource (indexed : dataset.Indexed) (sequence : Sequence) :
    (dataset.addSource sequence).sequences =
      if sequence.name ∈ dataset.names then
        dataset.sequences.map fun other =>
          if other.name = sequence.name then sequence else other
      else dataset.sequences ++ [sequence] := by
  cases found : dataset.index[sequence.name]? with
  | some position =>
    obtain ⟨old, there, same⟩ := indexed.name_eq found
    have listed : sequence.name ∈ dataset.names :=
      List.mem_map.mpr ⟨old, List.mem_of_getElem? there, same⟩
    rw [if_pos listed, ← same, indexed.map_named there fun _ => sequence]
    simp only [Dataset.addSource, found]
  | none =>
    have unlisted : sequence.name ∉ dataset.names := by
      intro listed
      obtain ⟨other, member, same⟩ := List.mem_map.mp listed
      exact indexed.index_eq_none_iff.mp found other member same
    rw [if_neg unlisted]
    simp only [Dataset.addSource, found]

private theorem index_addSource (sequence : Sequence)
    (found : dataset.index[name]? = some position) :
    (dataset.addSource sequence).index[name]? = some position := by
  cases own : dataset.index[sequence.name]? with
  | some _ =>
    simp only [Dataset.addSource, own]
    exact found
  | none =>
    have differs : sequence.name ≠ name := by
      rintro rfl
      rw [own] at found
      cases found
    simp only [Dataset.addSource, own]
    rw [Std.TreeMap.getElem?_insert, if_neg (mt Std.LawfulEqCmp.compare_eq_iff_eq.mp differs),
      found]

private theorem Indexed.names_addSource (indexed : dataset.Indexed) (sequence : Sequence) :
    (dataset.addSource sequence).names =
      if sequence.name ∈ dataset.names then dataset.names
      else dataset.names ++ [sequence.name] := by
  rw [names, indexed.sequences_addSource]
  by_cases listed : sequence.name ∈ dataset.names
  · rw [if_pos listed, if_pos listed, List.map_map]
    refine List.map_congr_left fun other _ => ?_
    by_cases same : other.name = sequence.name
    · simp [same]
    · simp [same]
  · rw [if_neg listed, if_neg listed, List.map_append, List.map_singleton, names]

theorem Gathers.addSource (gathers : dataset.Gathers given) (indexed : dataset.Indexed)
    (sequence : Sequence) : (dataset.addSource sequence).Gathers (given ++ [sequence]) := by
  have known : sequence.name ∈ dataset.names ↔ sequence.name ∈ given.map (·.name) := by
    rw [gathers.names_eq, List.mem_eraseDups]
  constructor
  · rw [indexed.names_addSource, List.map_append, List.map_singleton, eraseDups_concat,
      ← gathers.names_eq]
    simp only [known]
  · intro other member
    rw [lastNamed_concat]
    rw [indexed.sequences_addSource] at member
    by_cases listed : sequence.name ∈ dataset.names
    · rw [if_pos listed] at member
      obtain ⟨old, there, rfl⟩ := List.mem_map.mp member
      by_cases same : old.name = sequence.name
      · rw [if_pos same, if_pos rfl]
      · rw [if_neg same, if_neg (Ne.symm same), gathers.lastNamed_eq old there]
    · rw [if_neg listed] at member
      rcases List.mem_append.mp member with there | last
      · have differs : sequence.name ≠ other.name := by
          intro same
          exact listed (same ▸ List.mem_map_of_mem there)
        rw [if_neg differs, gathers.lastNamed_eq other there]
      · obtain rfl := List.mem_singleton.mp last
        rw [if_pos rfl]

theorem Gathers.extend (gathers : dataset.Gathers given) (indexed : dataset.Indexed)
    (more : List Sequence) : (dataset.extend more).Gathers (given ++ more) := by
  induction more generalizing dataset given with
  | nil =>
    rw [List.append_nil]
    exact gathers
  | cons sequence rest ih =>
    rw [List.append_cons]
    exact ih (gathers.addSource indexed sequence) (indexed.addSource sequence)

private theorem gathers_empty (resolver : Resolver) (scope : ScopeRules) (store : Nat) :
    Gathers [] { resolver, scope, store } := ⟨rfl, nofun⟩

theorem Filled.reachable (filled : Filled given dataset) : dataset.Reachable := by
  induction filled with
  | empty resolver scope store => exact .empty resolver scope store
  | ofSequences given => exact reachable_ofSequences given
  | addSource sequence _ reachable => exact reachable.step (.addSource sequence)
  | extend more _ reachable => exact reachable.step (.extend more)

private theorem Filled.gathers (filled : Filled given dataset) : dataset.Gathers given := by
  induction filled with
  | empty resolver scope store => exact gathers_empty resolver scope store
  | ofSequences given =>
    exact (gathers_empty .standard .standard 0).extend (indexed_empty _ _ _) given
  | addSource sequence filled gathers => exact gathers.addSource filled.reachable.indexed sequence
  | extend more filled gathers => exact gathers.extend filled.reachable.indexed more

/-- A dataset filled with sequences has the distinct names of these in the order of their first
occurrence, each with the sequence given last. In any reachable dataset a further source changes
nothing but the one source with its name, in its place, or comes last, and the names that were there
keep their positions. -/
theorem sources_of_filled :
    (∀ (given : List Sequence) (dataset : Dataset), Filled given dataset →
      dataset.names = (given.map (·.name)).eraseDups ∧
      ∀ sequence ∈ dataset.sequences, lastNamed sequence.name given = some sequence) ∧
    ∀ (dataset : Dataset), dataset.Reachable → ∀ sequence : Sequence,
      dataset.names.Nodup ∧
      ((dataset.addSource sequence).sequences =
        if sequence.name ∈ dataset.names then
          dataset.sequences.map fun other =>
            if other.name = sequence.name then sequence else other
        else dataset.sequences ++ [sequence]) ∧
      ∀ (name : String) (position : Nat), dataset.index[name]? = some position →
        (dataset.addSource sequence).index[name]? = some position := by
  constructor
  · intro given dataset filled
    exact ⟨filled.gathers.names_eq, filled.gathers.lastNamed_eq⟩
  · intro dataset reachable sequence
    have indexed := reachable.indexed
    exact ⟨indexed.nodup_names, indexed.sequences_addSource sequence,
      fun _ _ => index_addSource sequence⟩

/-- Two portions, of which the second replaces a source of the first. -/
private def portions : Dataset :=
  (ofSequences [⟨"b", [.bare "A"]⟩, ⟨"a", []⟩, ⟨"b", [.bare "B"]⟩]).extend
    [⟨"c", []⟩, ⟨"a", [.bare "C"]⟩]

private theorem filled_portions : Filled
    ([⟨"b", [.bare "A"]⟩, ⟨"a", []⟩, ⟨"b", [.bare "B"]⟩] ++ [⟨"c", []⟩, ⟨"a", [.bare "C"]⟩])
    portions :=
  .extend _ (.ofSequences _)

/-- The position is that of the first occurrence, the tokens are those of the last. -/
theorem sources_of_filled_portions :
    portions.names = ["b", "a", "c"] ∧
      lastNamed "a" ([⟨"b", [.bare "A"]⟩, ⟨"a", []⟩, ⟨"b", [.bare "B"]⟩] ++
        [⟨"c", []⟩, ⟨"a", [.bare "C"]⟩]) = some ⟨"a", [.bare "C"]⟩ ∧
      (portions.addSource ⟨"c", [.bare "D"]⟩).sequences =
        [⟨"b", [.bare "B"]⟩, ⟨"a", [.bare "C"]⟩, ⟨"c", [.bare "D"]⟩] := by
  obtain ⟨names, last⟩ := sources_of_filled.1 _ _ filled_portions
  have added := (sources_of_filled.2 _ filled_portions.reachable ⟨"c", [.bare "D"]⟩).2.1
  exact ⟨names.trans (by decide), last ⟨"a", [.bare "C"]⟩ (by decide), added.trans (by decide)⟩

end TokenQuery.Dataset
