import TokenQuery.Proofs.Entries
import TokenQuery.Proofs.Query.StopPoint

/-!
Results by label. Of filters with one label the first is found and the last is entered. Main
statement: after any runs a label has an entry exactly when a filter with it is found, and the entry
is the result of the filter found when no other has the label (`lookup_results_of_label`). Where two
have it, the entry is that of the other one (`lookup_results_of_twins`).
-/

set_option autoImplicit false

namespace TokenQuery.Query

/-- The filters with a label, in the order of the query. -/
def bearing (query : Query) (label : String) : List Filter :=
  query.filters.filter (·.label == some label)

/-- The query after a run over each of some passes. -/
def afterRuns (query : Query) (passes : List (List Handle)) : Query :=
  passes.foldl (fun query handles => (query.run handles).1) query

variable {query : Query} {label : String}

private theorem labelled?_eq (query : Query) (label : String) :
    query.labelled? label = (query.bearing label).head? := by
  rw [bearing, List.head?_filter, labelled?]

theorem results_eq (query : Query) :
    query.results =
      (Entries.collected (·.label) query.filters).map (Prod.map id Filter.result) := by
  obtain ⟨filters⟩ := query
  induction filters using List.reverseRecOn with
  | nil => rfl
  | append_singleton filters filter ih =>
    cases labelled : filter.label with
    | none =>
      rw [Entries.collected_concat_of_none labelled, ← ih, results, List.foldl_concat, labelled,
        results]
    | some label =>
      rw [Entries.collected_concat_of_some labelled, Entries.map_set, ← ih, results,
        List.foldl_concat, labelled, results]

private theorem lookup_results (query : Query) (label : String) :
    query.results.lookup label = (query.bearing label).getLast?.map (·.result) := by
  have same : query.bearing label =
      query.filters.filter fun filter => filter.label = some label := by
    refine List.filter_congr fun filter _ => ?_
    rw [Bool.eq_iff_iff, beq_iff_eq, decide_eq_true_iff]
  rw [results_eq, Entries.lookup_map, Entries.lookup_collected, same]

private theorem nodup_map_fst_results (query : Query) : (query.results.map (·.1)).Nodup := by
  rw [results_eq, List.map_map]
  exact Entries.nodup_map_fst_collected _ _

private theorem labels_run (query : Query) (handles : List Handle) :
    (query.run handles).1.filters.map (·.label) = query.filters.map (·.label) := by
  rcases run_cases query handles with ⟨i, j, _, ends⟩ | ⟨_, ends⟩
  · rw [ends, stoppedAt]
    apply List.ext_getElem?
    intro p
    simp [Filter.holding, Function.comp_def]
  · rw [ends, finished, List.map_map]
    rfl

private theorem labels_afterRuns (query : Query) (passes : List (List Handle)) :
    (query.afterRuns passes).filters.map (·.label) = query.filters.map (·.label) := by
  induction passes generalizing query with
  | nil => rfl
  | cons handles rest ih => exact (ih (query.run handles).1).trans (query.labels_run handles)

private theorem length_bearing (query : Query) (label : String) :
    (query.bearing label).length = (query.filters.map (·.label)).count (some label) := by
  rw [bearing, ← List.countP_eq_length_filter, List.count, List.countP_map]
  rfl

/-- After any runs a label has an entry exactly when a filter with the label is found. The filter
found is the first that has it, and the entry is the result of the last, so that the two are of one
filter whenever at most one filter of the query has the label. -/
theorem lookup_results_of_label (query : Query) (passes : List (List Handle)) (label : String) :
    ((query.afterRuns passes).results.map (·.1)).Nodup ∧
    ((query.afterRuns passes).results.lookup label).isSome =
      ((query.afterRuns passes).labelled? label).isSome ∧
    (query.afterRuns passes).labelled? label = ((query.afterRuns passes).bearing label).head? ∧
    (query.afterRuns passes).results.lookup label =
      ((query.afterRuns passes).bearing label).getLast?.map (·.result) ∧
    ((query.filters.map (·.label)).count (some label) ≤ 1 →
      (query.afterRuns passes).results.lookup label =
        ((query.afterRuns passes).labelled? label).map (·.result)) := by
  refine ⟨nodup_map_fst_results _, ?_, labelled?_eq _ _, lookup_results _ _, ?_⟩
  · rw [lookup_results, labelled?_eq, Option.isSome_map, Bool.eq_iff_iff, List.getLast?_isSome,
      List.isSome_head?]
  · intro once
    rw [← query.labels_afterRuns passes, ← length_bearing] at once
    rw [lookup_results, labelled?_eq]
    -- A list of at most one filter ends with the filter that it begins with.
    match (query.afterRuns passes).bearing label, once with
    | [], _ => rfl
    | [filter], _ => rfl

private def pair : Source := ⟨0, 0, ⟨"s", [.bare "A", .bare "B"]⟩⟩

private def paired : List Handle := [⟨pair, 0, by decide⟩, ⟨pair, 1, by decide⟩]

private def named (name : String) : Filter := { matcher := { name := [.exact name] } }

/-- Two filters with one label, and one with a label of its own. -/
private def twins : Query :=
  ⟨[(named "A").withLabel "x", (named "B").withLabel "y", (named "B").withLabel "x"]⟩

/-- The label that one filter has is answered in both ways with its result, after two runs. -/
theorem lookup_results_of_single :
    (twins.filters.map (·.label)).count (some "y") ≤ 1 ∧
      (twins.afterRuns [paired, paired]).results.lookup "y" =
        ((twins.afterRuns [paired, paired]).labelled? "y").map (·.result) :=
  ⟨by decide, (lookup_results_of_label twins [paired, paired] "y").2.2.2.2 (by decide)⟩

/-- Of two filters with one label the first is found, but the entry is the result of the second. -/
theorem lookup_results_of_twins :
    ¬ ∀ (query : Query) (passes : List (List Handle)) (label : String),
      (query.afterRuns passes).results.lookup label =
        ((query.afterRuns passes).labelled? label).map (·.result) := by
  intro agree
  have same := agree twins [paired] "x"
  revert same
  decide

end TokenQuery.Query
