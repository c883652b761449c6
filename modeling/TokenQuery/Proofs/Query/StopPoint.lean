import TokenQuery.Proofs.Query.Keeping

/-!
Where a run of a query ends, and what its filters hold then. The stop point of a query on a pass is
the first pair of a token and a filter, tokens before filters, at which a terminating filter reaches
its limit. Main statement: a run ends at the stop point, where the filters up to the stopping one
have seen the token and those behind it have not, and without a stop point it shows every token to
every filter (`execute_eq_at_stopPoint`).
-/

set_option autoImplicit false

namespace TokenQuery.Query

/-- Token `i` of a pass is the `k`-th match of filter `j`, which is terminating and has the limit
`k`. -/
def Reaches (query : Query) (handles : List Handle) (i j : Nat) : Prop :=
  ∃ filter handle k, query.filters[j]? = some filter ∧ handles[i]? = some handle ∧
    filter.terminating = true ∧ filter.limit = some k ∧
    filter.matcher.accepts handle.token = true ∧ (filter.matched (handles.take (i + 1))).length = k

/-- The first pair of a token and a filter at which a terminating filter reaches its limit, with the
pairs in lexicographic order. -/
structure IsStopPoint (query : Query) (handles : List Handle) (i j : Nat) : Prop where
  reaches : query.Reaches handles i j
  least : ∀ i' j', query.Reaches handles i' j' → i < i' ∨ i = i' ∧ j ≤ j'

/-- The query as a run leaves it that ends at token `i` with filter `j`: the filters behind `j` have
not seen token `i`. -/
def stoppedAt (query : Query) (handles : List Handle) (i j : Nat) : Query :=
  ⟨query.filters.mapIdx fun position filter =>
    filter.holding (handles.take (if position ≤ j then i + 1 else i))⟩

/-- The query as a run leaves it that shows every token to every filter. -/
def finished (query : Query) (handles : List Handle) : Query :=
  ⟨query.filters.map (·.holding handles)⟩

variable {query : Query} {handles seen rest : List Handle} {i j : Nat}

theorem IsStopPoint.unique {i' j' : Nat} (h : query.IsStopPoint handles i j)
    (h' : query.IsStopPoint handles i' j') : i = i' ∧ j = j' := by
  have forth := h.least i' j' h'.reaches
  have back := h'.least i j h.reaches
  omega

theorem reaches_iff_stopsOn :
    query.Reaches handles i j ↔
      ∃ filter handle, query.filters[j]? = some filter ∧ handles[i]? = some handle ∧
        filter.stopsOn (handles.take i) handle = true := by
  have counted {filter : Filter} {handle : Handle} (here : handles[i]? = some handle)
      (accepted : filter.matcher.accepts handle.token = true) :
      (filter.matched (handles.take (i + 1))).length =
        (filter.matched (handles.take i)).length + 1 := by
    rw [List.take_add_one, here, Option.toList_some, Filter.matched_append_singleton,
      if_pos accepted, List.length_append, List.length_singleton]
  constructor
  · rintro ⟨filter, handle, k, there, here, terminating, limit, accepted, count⟩
    refine ⟨filter, handle, there, here, ?_⟩
    rw [counted here accepted] at count
    simp [Filter.stopsOn, terminating, accepted, limit, count]
  · rintro ⟨filter, handle, there, here, stops⟩
    simp only [Filter.stopsOn, Bool.and_eq_true, beq_iff_eq] at stops
    obtain ⟨⟨terminating, accepted⟩, limit⟩ := stops
    exact ⟨filter, handle, _, there, here, terminating, limit, accepted, counted here accepted⟩

instance : Decidable (query.Reaches handles i j) :=
  decidable_of_iff ((query.filters[j]?.any fun filter =>
    handles[i]?.any fun handle => filter.stopsOn (handles.take i) handle) = true) (by
      rw [reaches_iff_stopsOn]
      simp [Option.any_eq_true])

private theorem isStopPoint_iff :
    query.IsStopPoint handles i j ↔
      query.Reaches handles i j ∧
        (∀ i' < i, ∀ j' < query.filters.length, ¬ query.Reaches handles i' j') ∧
        ∀ j' < j, ¬ query.Reaches handles i j' := by
  constructor
  · intro stop
    refine ⟨stop.reaches, ?_, ?_⟩
    · intro i' earlier j' _ reaches
      have least := stop.least i' j' reaches
      omega
    · intro j' earlier reaches
      have least := stop.least i j' reaches
      omega
  · rintro ⟨reaches, before, above⟩
    refine ⟨reaches, ?_⟩
    intro i' j' reaches'
    have inside : j' < query.filters.length := by
      obtain ⟨_, _, _, there, _⟩ := reaches'
      exact (List.getElem?_eq_some_iff.mp there).1
    rcases Nat.lt_trichotomy i' i with earlier | rfl | later
    · exact absurd reaches' (before i' earlier j' inside)
    · exact Or.inr ⟨rfl, Nat.le_of_not_lt fun earlier => above j' earlier reaches'⟩
    · exact Or.inl later

instance : Decidable (query.IsStopPoint handles i j) := decidable_of_iff _ isStopPoint_iff.symm

private theorem reaches_at_length {handle : Handle} :
    query.Reaches (seen ++ handle :: rest) seen.length j ↔
      ∃ filter, query.filters[j]? = some filter ∧ filter.stopsOn seen handle = true := by
  rw [reaches_iff_stopsOn]
  simp

private theorem scan_cons_of_stops {filters : List Filter} {handle : Handle} (scanned : Nat)
    (first : filters.findIdx? (·.stopsOn seen handle) = some j) :
    scan scanned (filters.map (·.holding seen)) (handle :: rest) =
      (filters.mapIdx fun p filter => filter.holding (if p ≤ j then seen ++ [handle] else seen),
        ⟨scanned + 1, some j⟩) := by
  rw [scan, offer_holding, first]
  simp only [Nat.zero_add]

private theorem scan_cons_of_passes {filters : List Filter} {handle : Handle} (scanned : Nat)
    (first : filters.findIdx? (·.stopsOn seen handle) = none) :
    scan scanned (filters.map (·.holding seen)) (handle :: rest) =
      scan (scanned + 1) (filters.map (·.holding (seen ++ [handle]))) rest := by
  rw [scan, offer_holding, first]

/-- The scan of what comes after `seen` ends at the stop point, or there is none. The induction is
on the tokens still to come; no filter has reached its limit on those before. -/
private theorem scan_holding (query : Query) (seen rest : List Handle)
    (silent : ∀ i j, query.Reaches (seen ++ rest) i j → seen.length ≤ i) :
    (∃ i j, query.IsStopPoint (seen ++ rest) i j ∧
      scan seen.length (query.filters.map (·.holding seen)) rest =
        ((query.stoppedAt (seen ++ rest) i j).filters, ⟨i + 1, some j⟩)) ∨
    ((∀ i j, ¬ query.Reaches (seen ++ rest) i j) ∧
      scan seen.length (query.filters.map (·.holding seen)) rest =
        ((query.finished (seen ++ rest)).filters, ⟨(seen ++ rest).length, none⟩)) := by
  induction rest generalizing seen with
  | nil =>
    refine Or.inr ⟨?_, by simp [scan, finished]⟩
    intro i j reaches
    have late := silent i j reaches
    obtain ⟨_, handle, _, _, here, _⟩ := reaches
    rw [List.append_nil] at here
    have early := (List.getElem?_eq_some_iff.mp here).1
    omega
  | cons handle rest ih =>
    cases first : query.filters.findIdx? (·.stopsOn seen handle) with
    | some j =>
      obtain ⟨inside, stops, before⟩ := List.findIdx?_eq_some_iff_getElem.mp first
      refine Or.inl ⟨seen.length, j, ⟨?_, ?_⟩, ?_⟩
      · exact reaches_at_length.mpr ⟨_, List.getElem?_eq_getElem inside, stops⟩
      · intro i' j' reaches
        rcases Nat.eq_or_lt_of_le (silent i' j' reaches) with rfl | later
        · obtain ⟨filter, there, stops'⟩ := reaches_at_length.mp reaches
          refine Or.inr ⟨rfl, ?_⟩
          rcases Nat.lt_or_ge j' j with earlier | later
          · obtain ⟨_, rfl⟩ := List.getElem?_eq_some_iff.mp there
            exact absurd stops' (before j' earlier)
          · exact later
        · exact Or.inl later
      · have upTo : (seen ++ handle :: rest).take (seen.length + 1) = seen ++ [handle] := by
          rw [List.take_length_add_append, List.take_succ_cons, List.take_zero]
        have before : (seen ++ handle :: rest).take seen.length = seen := by simp
        have seenBy (p : Nat) :
            (seen ++ handle :: rest).take (if p ≤ j then seen.length + 1 else seen.length) =
              if p ≤ j then seen ++ [handle] else seen := by
          split
          · exact upTo
          · exact before
        rw [scan_cons_of_stops _ first]
        simp only [stoppedAt, seenBy]
    | none =>
      have passes := List.findIdx?_eq_none_iff.mp first
      have onward : seen ++ handle :: rest = (seen ++ [handle]) ++ rest := by simp
      have length : seen.length + 1 = (seen ++ [handle]).length := by simp
      rw [scan_cons_of_passes _ first, length, onward]
      rw [onward] at silent
      apply ih
      intro i j reaches
      rcases Nat.eq_or_lt_of_le (silent i j reaches) with rfl | later
      · rw [← onward] at reaches
        obtain ⟨filter, there, stops⟩ := reaches_at_length.mp reaches
        have refused := passes filter (List.mem_of_getElem? there)
        rw [stops] at refused
        cases refused
      · rw [← length]
        exact later

theorem run_cases (query : Query) (handles : List Handle) :
    (∃ i j, query.IsStopPoint handles i j ∧
      query.run handles = (query.stoppedAt handles i j, ⟨i + 1, some j⟩)) ∨
    ((∀ i j, ¬ query.Reaches handles i j) ∧
      query.run handles = (query.finished handles, ⟨handles.length, none⟩)) := by
  have start : query.filters.map Filter.cleared = query.filters.map (·.holding []) :=
    List.map_congr_left fun filter _ => filter.cleared_eq_holding_nil
  have outcome := scan_holding query [] handles (by simp)
  simp only [List.nil_append, List.length_nil] at outcome
  unfold run
  rw [start]
  rcases outcome with ⟨i, j, stop, ends⟩ | ⟨silent, ends⟩
  · exact Or.inl ⟨i, j, stop, by rw [ends]⟩
  · exact Or.inr ⟨silent, by rw [ends]⟩

theorem run_of_isStopPoint (h : query.IsStopPoint handles i j) :
    query.run handles = (query.stoppedAt handles i j, ⟨i + 1, some j⟩) := by
  rcases run_cases query handles with ⟨i', j', stop, ends⟩ | ⟨silent, _⟩
  · obtain ⟨rfl, rfl⟩ := h.unique stop
    exact ends
  · exact absurd h.reaches (silent i j)

theorem run_of_not_reaches (h : ∀ i j, ¬ query.Reaches handles i j) :
    query.run handles = (query.finished handles, ⟨handles.length, none⟩) := by
  rcases run_cases query handles with ⟨i, j, stop, _⟩ | ⟨_, ends⟩
  · exact absurd stop.reaches (h i j)
  · exact ends

theorem exists_isStopPoint (h : query.Reaches handles i j) :
    ∃ i j, query.IsStopPoint handles i j := by
  rcases run_cases query handles with ⟨i', j', stop, _⟩ | ⟨silent, _⟩
  · exact ⟨i', j', stop⟩
  · exact absurd h (silent i j)

private theorem run_eq_of_cleared_eq {other : Query}
    (h : other.filters.map Filter.cleared = query.filters.map Filter.cleared) :
    other.run handles = query.run handles := by
  unfold run
  rw [h]

theorem result_sublist_of_mem_run {filter : Filter}
    (h : filter ∈ (query.run handles).1.filters) : filter.result.toList.Sublist handles := by
  rcases run_cases query handles with ⟨i, j, _, ends⟩ | ⟨_, ends⟩
  · rw [ends] at h
    obtain ⟨position, inside, rfl⟩ := List.mem_mapIdx.mp h
    exact (Filter.kept_sublist _ _).trans (List.take_sublist _ _)
  · rw [ends] at h
    obtain ⟨original, _, rfl⟩ := List.mem_map.mp h
    exact Filter.kept_sublist _ _

theorem execute_result (query : Query) (handles : List Handle) :
    (query.execute handles).result = .ok (query.run handles) := rfl

/-- A run ends at the stop point, if there is one: the filters up to the one that stops the run hold
what they keep of the tokens up to the last one scanned, and the filters behind it what they keep of
the tokens before. Without a stop point every filter holds what it keeps of the whole pass. The
matches stand in the order of the pass, and what the filters held before does not matter. -/
theorem execute_eq_at_stopPoint (query : Query) (handles : List Handle) :
    (∀ i j, query.IsStopPoint handles i j →
      ∃ outcome, (query.execute handles).result = .ok (query.stoppedAt handles i j, outcome) ∧
        outcome.terminated = true ∧ outcome.scanned = i + 1) ∧
    ((¬ ∃ i j, query.IsStopPoint handles i j) →
      ∃ outcome, (query.execute handles).result = .ok (query.finished handles, outcome) ∧
        outcome.terminated = false ∧ outcome.scanned = handles.length) ∧
    (∀ after outcome, (query.execute handles).result = .ok (after, outcome) →
      ∀ filter ∈ after.filters, filter.result.toList.Sublist handles) ∧
    (∀ other : Query, other.filters.map Filter.cleared = query.filters.map Filter.cleared →
      (other.execute handles).result = (query.execute handles).result) := by
  simp only [execute_result]
  refine ⟨?_, ?_, ?_, ?_⟩
  · intro i j stop
    exact ⟨_, by rw [run_of_isStopPoint stop], rfl, rfl⟩
  · intro endless
    have silent : ∀ i j, ¬ query.Reaches handles i j :=
      fun i j reaches => endless (exists_isStopPoint reaches)
    exact ⟨_, by rw [run_of_not_reaches silent], rfl, rfl⟩
  · intro after outcome ends filter member
    have left : (query.run handles).1 = after := congrArg Prod.fst (Except.ok.inj ends)
    rw [← left] at member
    exact result_sublist_of_mem_run member
  · intro other same
    rw [run_eq_of_cleared_eq same]

private def tally : Source := ⟨0, 0, ⟨"s", [.bare "A", .bare "B", .bare "A"]⟩⟩

private def tallied : List Handle :=
  [⟨tally, 0, by decide⟩, ⟨tally, 1, by decide⟩, ⟨tally, 2, by decide⟩]

/-- Two terminating filters with the limit two, between filters without one. -/
private def rivals : Query :=
  ⟨[.any, (Filter.any.withLimit 2).terminate, (Filter.any.withLimit 2).terminate, .any]⟩

/-- Of two filters that would reach their limits on one token, the first ends the run. -/
theorem execute_rivals :
    rivals.IsStopPoint tallied 1 1 ∧
      ∃ outcome, (rivals.execute tallied).result = .ok (rivals.stoppedAt tallied 1 1, outcome) ∧
        outcome.terminated = true ∧ outcome.scanned = 2 :=
  ⟨by decide, (execute_eq_at_stopPoint rivals tallied).1 1 1 (by decide)⟩

end TokenQuery.Query
