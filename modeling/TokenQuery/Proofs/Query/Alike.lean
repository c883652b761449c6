import Mathlib.Data.List.Forall2
import TokenQuery.Proofs.Query.Labels

/-!
Filters that cannot be told apart: they match the same tokens, with one limit, one label and one way
to end a run. Main statement: queries of such filters have the same outcome, events and results on
all tokens (`execute_eq_of_alike`).
-/

set_option autoImplicit false

namespace TokenQuery

/-- The filters have label, limit and termination in common and match the same tokens. What they
hold of an earlier run does not count. -/
structure Filter.Alike (filter other : Filter) : Prop where
  label : filter.label = other.label
  limit : filter.limit = other.limit
  terminating : filter.terminating = other.terminating
  accepts : ∀ token, filter.matcher.accepts token = other.matcher.accepts token

namespace Filter.Alike

variable {filter other : Filter}

theorem symm (alike : filter.Alike other) : other.Alike filter :=
  ⟨alike.label.symm, alike.limit.symm, alike.terminating.symm,
    fun token => (alike.accepts token).symm⟩

private theorem matched_eq (alike : filter.Alike other) (seen : List Handle) :
    filter.matched seen = other.matched seen := by
  simp only [matched, alike.accepts]

private theorem kept_eq (alike : filter.Alike other) (seen : List Handle) :
    filter.kept seen = other.kept seen := by
  rw [kept, kept, alike.limit, alike.matched_eq]

private theorem stopsOn_eq (alike : filter.Alike other) (seen : List Handle) (handle : Handle) :
    filter.stopsOn seen handle = other.stopsOn seen handle := by
  rw [stopsOn, stopsOn, alike.terminating, alike.accepts, alike.limit, alike.matched_eq]

end Filter.Alike

namespace Query

/-- What a query tells of its filters: their labels and matches, in their order. -/
def report (query : Query) : List (Option String × Array Handle) :=
  query.filters.map fun filter => (filter.label, filter.result)

/-- The queries have filters that are alike one by one. -/
def Alike (query other : Query) : Prop := List.Forall₂ Filter.Alike query.filters other.filters

variable {query other : Query} {handles : List Handle} {i j : Nat}

theorem Alike.symm (alike : query.Alike other) : other.Alike query :=
  List.Forall₂.flip (alike.imp fun _ _ each => each.symm)

private theorem rel_getElem?_of_forall₂ {α β : Type} {R : α → β → Prop} {left : List α}
    {right : List β}
    (each : List.Forall₂ R left right) (j : Nat) : Option.Rel R left[j]? right[j]? := by
  induction each generalizing j with
  | nil => exact .none
  | cons related _ ih =>
    cases j with
    | zero => exact .some related
    | succ j => exact ih j

private theorem Reaches.of_alike (alike : query.Alike other) (reaches : query.Reaches handles i j) :
    other.Reaches handles i j := by
  obtain ⟨filter, handle, there, here, stops⟩ := reaches_iff_stopsOn.mp reaches
  have related := rel_getElem?_of_forall₂ alike j
  rw [there] at related
  generalize there' : other.filters[j]? = found at related
  cases related with
  | some each =>
    rw [each.stopsOn_eq] at stops
    exact reaches_iff_stopsOn.mpr ⟨_, handle, there', here, stops⟩

private theorem IsStopPoint.of_alike (alike : query.Alike other)
    (stop : query.IsStopPoint handles i j) :
    other.IsStopPoint handles i j :=
  ⟨stop.reaches.of_alike alike, fun i' j' reaches => stop.least i' j' (reaches.of_alike alike.symm)⟩

private theorem report_eq_of_seen {after after' : Query} (alike : query.Alike other)
    (seen : Nat → List Handle)
    (left : ∀ p : Nat, after.filters[p]? = query.filters[p]?.map (Filter.holding · (seen p)))
    (right : ∀ p : Nat, after'.filters[p]? = other.filters[p]?.map (Filter.holding · (seen p))) :
    after.report = after'.report := by
  apply List.ext_getElem?
  intro p
  simp only [report, List.getElem?_map, left, right, Option.map_map]
  have related := rel_getElem?_of_forall₂ alike p
  generalize query.filters[p]? = filter, other.filters[p]? = filter' at related ⊢
  cases related with
  | none => rfl
  | some each =>
    exact congrArg some (Prod.ext each.label (congrArg List.toArray (each.kept_eq (seen p))))

private theorem results_eq_of_report_eq (same : query.report = other.report) :
    query.results = other.results := by
  have read (query : Query) :
      query.results = (Entries.collected (·.1) query.report).map (Prod.map id (·.2)) := by
    rw [results_eq, report, Entries.collected_map, List.map_map]
    rfl
  rw [read, read, same]

private theorem run_eq_of_alike (alike : query.Alike other) (handles : List Handle) :
    (query.run handles).2 = (other.run handles).2 ∧
      (query.run handles).1.report = (other.run handles).1.report := by
  rcases run_cases query handles with ⟨i, j, stop, ends⟩ | ⟨silent, ends⟩
  · rw [ends, run_of_isStopPoint (stop.of_alike alike)]
    exact ⟨rfl, report_eq_of_seen alike (fun p => handles.take (if p ≤ j then i + 1 else i))
      (fun p => by simp [stoppedAt]) fun p => by simp [stoppedAt]⟩
  · have silent' : ∀ i j, ¬ other.Reaches handles i j :=
      fun i j reaches => silent i j (reaches.of_alike alike.symm)
    rw [ends, run_of_not_reaches silent']
    exact ⟨rfl, report_eq_of_seen alike (fun _ => handles) (fun p => by simp [finished])
      fun p => by simp [finished]⟩

private theorem execute_eq_run (query : Query) (handles : List Handle) :
    query.execute handles =
      ⟨.ok (query.run handles), (query.run handles).2.events query.size⟩ := by
  simp [execute, bind, pure, Traced.noteAll]

/-- Alike queries end a run with the same outcome, and note and report the same. -/
theorem execute_eq_of_alike (alike : query.Alike other) (handles : List Handle) :
    ∃ after after' outcome events,
      query.execute handles = ⟨.ok (after, outcome), events⟩ ∧
      other.execute handles = ⟨.ok (after', outcome), events⟩ ∧
      after.report = after'.report ∧ after.results = after'.results := by
  obtain ⟨ends, reports⟩ := run_eq_of_alike alike handles
  have size : other.size = query.size := alike.length_eq.symm
  refine ⟨(query.run handles).1, (other.run handles).1, (query.run handles).2,
    (query.run handles).2.events query.size, ?_, ?_, reports, results_eq_of_report_eq reports⟩
  · rw [execute_eq_run]
  · rw [execute_eq_run, size, ends]

end Query

end TokenQuery
