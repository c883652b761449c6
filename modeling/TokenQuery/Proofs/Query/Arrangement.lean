import Mathlib.Data.List.InsertIdx
import TokenQuery.Proofs.Query.StopPoint

/-!
What a run owes to the arrangement of the filters: which of them stand together, and in what order.
Main statements: a filter that can never stop a run leaves the run and all other filters as they
are, wherever it is inserted (`execute_insert_inert`), and the same filters in another order end the
run at the same token and hold the same matches, but perhaps for the last token scanned
(`execute_rearranged`).
-/

set_option autoImplicit false

namespace TokenQuery

namespace Filter

/-- The filter can never stop a run: it is not terminating, or it has no limit to reach. -/
def Inert (filter : Filter) : Prop := filter.terminating = false ∨ filter.limit = none

/-- Token `i` of a pass is the match with which the filter stops a run that gets so far. -/
def StopsAt (filter : Filter) (handles : List Handle) (i : Nat) : Prop :=
  ∃ handle, handles[i]? = some handle ∧ filter.stopsOn (handles.take i) handle = true

instance (filter : Filter) : Decidable filter.Inert := inferInstanceAs (Decidable (_ ∨ _))

variable {filter : Filter} {handles seen : List Handle} {handle : Handle} {i : Nat}

private theorem not_stopsAt_of_inert (inert : filter.Inert) : ¬ filter.StopsAt handles i := by
  rintro ⟨handle, _, stops⟩
  rcases inert with plain | unlimited
  · simp [stopsOn, plain] at stops
  · simp [stopsOn, unlimited] at stops

private theorem kept_append_singleton_cases (filter : Filter) (seen : List Handle)
    (handle : Handle) :
    filter.kept (seen ++ [handle]) = filter.kept seen ∨
      filter.kept (seen ++ [handle]) = filter.kept seen ++ [handle] := by
  cases full : (filter.holding seen).saturated with
  | true =>
    have same := congrArg (·.result.toList) (holding_append_of_saturated full handle)
    exact Or.inl same
  | false =>
    rw [kept_append_of_not_saturated full handle, kept_of_not_saturated full,
      matched_append_singleton]
    by_cases accepted : filter.matcher.accepts handle.token = true
    · exact Or.inr (if_pos accepted)
    · exact Or.inl (if_neg accepted)

end Filter

namespace Query

variable {query other : Query} {filter : Filter} {handles : List Handle} {i j k p position : Nat}

private theorem reaches_iff_stopsAt :
    query.Reaches handles i j ↔
      ∃ filter, query.filters[j]? = some filter ∧ filter.StopsAt handles i := by
  rw [reaches_iff_stopsOn]
  constructor
  · rintro ⟨filter, handle, there, here, stops⟩
    exact ⟨filter, there, handle, here, stops⟩
  · rintro ⟨filter, there, handle, here, stops⟩
    exact ⟨filter, handle, there, here, stops⟩

private theorem exists_reaches_iff :
    (∃ j, query.Reaches handles i j) ↔ ∃ filter ∈ query.filters, filter.StopsAt handles i := by
  simp only [reaches_iff_stopsAt, List.mem_iff_getElem?]
  constructor
  · rintro ⟨j, filter, there, stops⟩
    exact ⟨filter, ⟨j, there⟩, stops⟩
  · rintro ⟨filter, ⟨j, there⟩, stops⟩
    exact ⟨j, filter, there, stops⟩

private theorem not_reaches_of_inert (inert : ∀ filter ∈ query.filters, filter.Inert) (i j : Nat) :
    ¬ query.Reaches handles i j := by
  intro reaches
  obtain ⟨filter, member, stops⟩ := exists_reaches_iff.mp ⟨j, reaches⟩
  exact Filter.not_stopsAt_of_inert (inert filter member) stops

theorem resultAt_stoppedAt (there : query.filters[p]? = some filter) :
    (query.stoppedAt handles i j).resultAt p =
      (filter.kept (handles.take (if p ≤ j then i + 1 else i))).toArray := by
  simp [stoppedAt, resultAt, there]

theorem resultAt_finished (there : query.filters[p]? = some filter) :
    (query.finished handles).resultAt p = (filter.kept handles).toArray := by
  simp [finished, resultAt, there]

private theorem execute_of_run {after : Query} {outcome : Outcome}
    (ends : query.run handles = (after, outcome)) :
    (query.execute handles).result = .ok (after, outcome) := by
  rw [execute_result, ends]

section Insertion

/-- The query with one more filter at a position. -/
def insert (query : Query) (position : Nat) (filter : Filter) : Query :=
  ⟨query.filters.insertIdx position filter⟩

/-- Where filter `j` stands once another filter is inserted at a position. -/
def moved (position j : Nat) : Nat := if j < position then j else j + 1

private theorem moved_le_moved_iff : moved position k ≤ moved position j ↔ k ≤ j := by
  unfold moved
  split <;> split <;> omega

private theorem eq_or_eq_moved (position k : Nat) : k = position ∨ ∃ j, k = moved position j := by
  rcases Nat.lt_trichotomy k position with before | same | behind
  · exact Or.inr ⟨k, by rw [moved, if_pos before]⟩
  · exact Or.inl same
  · exact Or.inr ⟨k - 1, by rw [moved, if_neg (by omega)]; omega⟩

private theorem getElem?_insertIdx_moved {α : Type} (items : List α) (item : α) (position j : Nat) :
    (items.insertIdx position item)[moved position j]? = items[j]? := by
  by_cases before : j < position
  · rw [moved, if_pos before]
    exact List.getElem?_insertIdx_of_lt before
  · have behind : position < j + 1 := by omega
    rw [moved, if_neg before]
    exact List.getElem?_insertIdx_of_gt behind

private theorem reaches_insert_iff (inert : filter.Inert) :
    (query.insert position filter).Reaches handles i k ↔
      ∃ j, k = moved position j ∧ query.Reaches handles i j := by
  simp only [reaches_iff_stopsAt]
  constructor
  · rintro ⟨stopping, there, stops⟩
    rcases eq_or_eq_moved position k with rfl | ⟨j, rfl⟩
    · rw [insert, List.getElem?_insertIdx_self] at there
      split at there
      · obtain rfl : filter = stopping := Option.some.inj there
        exact absurd stops (Filter.not_stopsAt_of_inert inert)
      · cases there
    · rw [insert, getElem?_insertIdx_moved] at there
      exact ⟨j, rfl, stopping, there, stops⟩
  · rintro ⟨j, rfl, stopping, there, stops⟩
    refine ⟨stopping, ?_, stops⟩
    rw [insert, getElem?_insertIdx_moved]
    exact there

theorem IsStopPoint.insert (stop : query.IsStopPoint handles i j) (inert : filter.Inert) :
    (query.insert position filter).IsStopPoint handles i (moved position j) := by
  constructor
  · exact (reaches_insert_iff inert).mpr ⟨j, rfl, stop.reaches⟩
  · intro i' k reaches
    obtain ⟨j', rfl, reaches'⟩ := (reaches_insert_iff inert).mp reaches
    rcases stop.least i' j' reaches' with earlier | ⟨same, least⟩
    · exact Or.inl earlier
    · exact Or.inr ⟨same, moved_le_moved_iff.mpr least⟩

private theorem mapIdx_insertIdx {α β : Type} (f : Nat → α → β) (items : List α) (item : α)
    (position : Nat) :
    (items.insertIdx position item).mapIdx f =
      (items.mapIdx fun j => f (moved position j)).insertIdx position (f position item) := by
  apply List.ext_getElem?
  intro k
  rcases eq_or_eq_moved position k with rfl | ⟨j, rfl⟩
  · rw [List.getElem?_mapIdx, List.getElem?_insertIdx_self, List.getElem?_insertIdx_self,
      List.length_mapIdx]
    split
    · rfl
    · rfl
  · rw [List.getElem?_mapIdx, getElem?_insertIdx_moved, getElem?_insertIdx_moved,
      List.getElem?_mapIdx]

private theorem stoppedAt_insert :
    (query.insert position filter).stoppedAt handles i (moved position j) =
      (query.stoppedAt handles i j).insert position
        (filter.holding (handles.take (if position ≤ moved position j then i + 1 else i))) := by
  simp only [stoppedAt, insert, mapIdx_insertIdx, moved_le_moved_iff]

private theorem finished_insert :
    (query.insert position filter).finished handles =
      (query.finished handles).insert position (filter.holding handles) := by
  simp only [finished, insert, List.map_insertIdx]

/-- With an inert filter inserted the run ends at the same token and through the same filter, and
every other filter is left with the same matches. -/
private theorem exists_run_insert (query : Query) (position : Nat) (handles : List Handle)
    (inert : filter.Inert) :
    ∃ seen, (query.insert position filter).run handles =
      ((query.run handles).1.insert position (filter.holding seen),
        ⟨(query.run handles).2.scanned, (query.run handles).2.stoppedBy.map (moved position)⟩) := by
  rcases run_cases query handles with ⟨i, j, stop, ends⟩ | ⟨silent, ends⟩
  · refine ⟨handles.take (if position ≤ moved position j then i + 1 else i), ?_⟩
    rw [run_of_isStopPoint (stop.insert inert), ends, stoppedAt_insert]
    rfl
  · have silent' : ∀ i k, ¬ (query.insert position filter).Reaches handles i k := by
      intro i k reaches
      obtain ⟨j, _, reaches'⟩ := (reaches_insert_iff inert).mp reaches
      exact silent i j reaches'
    refine ⟨handles, ?_⟩
    rw [run_of_not_reaches silent', ends, finished_insert]
    rfl

private theorem resultAt_run_of_inert (inert : ∀ filter ∈ query.filters, filter.Inert)
    (there : query.filters[p]? = some filter) :
    (query.run handles).1.resultAt p = ((⟨[filter]⟩ : Query).run handles).1.resultAt 0 := by
  have alone : ∀ other ∈ [filter], other.Inert := by
    rw [List.forall_mem_singleton]
    exact inert filter (List.mem_of_getElem? there)
  rw [run_of_not_reaches (not_reaches_of_inert inert),
    run_of_not_reaches (not_reaches_of_inert alone), resultAt_finished there, resultAt_finished rfl]

/-- A filter that can never stop a run disturbs no other: wherever it is inserted, the run ends at
the same token and through the same filter, and the other filters are left as they are without it.
So in a query of such filters each holds what it holds when it runs alone. -/
theorem execute_insert_inert :
    (∀ (query : Query) (filter : Filter) (position : Nat) (handles : List Handle), filter.Inert →
      ∃ after outcome own outcome',
        (query.execute handles).result = .ok (after, outcome) ∧
        ((query.insert position filter).execute handles).result =
          .ok (after.insert position own, outcome') ∧
        outcome'.scanned = outcome.scanned ∧ outcome'.terminated = outcome.terminated ∧
        outcome'.stoppedBy = outcome.stoppedBy.map (moved position)) ∧
    ∀ (query : Query) (handles : List Handle), (∀ filter ∈ query.filters, filter.Inert) →
      ∀ position filter, query.filters[position]? = some filter →
        ∃ after outcome alone outcome',
          (query.execute handles).result = .ok (after, outcome) ∧
          ((⟨[filter]⟩ : Query).execute handles).result = .ok (alone, outcome') ∧
          after.resultAt position = alone.resultAt 0 := by
  constructor
  · intro query filter position handles inert
    obtain ⟨seen, ends⟩ := exists_run_insert query position handles inert
    exact ⟨(query.run handles).1, (query.run handles).2, filter.holding seen, _, execute_of_run rfl,
      execute_of_run ends, rfl, Option.isSome_map, rfl⟩
  · intro query handles inert position filter there
    exact ⟨_, _, _, _, execute_of_run rfl, execute_of_run rfl, resultAt_run_of_inert inert there⟩

private def triple : Source := ⟨0, 0, ⟨"s", [.bare "A", .bare "B", .bare "A"]⟩⟩

private def tripled : List Handle :=
  [⟨triple, 0, by decide⟩, ⟨triple, 1, by decide⟩, ⟨triple, 2, by decide⟩]

/-- A filter that ends the pass at its second match, and one behind it. -/
private def halting : Query := ⟨[(Filter.any.withLimit 2).terminate, .any]⟩

/-- Two filters of which one has a limit and the other is terminating. -/
private def lasting : Query := ⟨[Filter.any.withLimit 1, Filter.any.terminate]⟩

/-- A filter with a limit but not terminating in front of one that ends the pass, and one without a
limit beside it. -/
theorem execute_insert_capped :
    ((Filter.any.withLimit 1).Inert ∧
      ∃ after outcome own outcome',
        (halting.execute tripled).result = .ok (after, outcome) ∧
        ((halting.insert 0 (Filter.any.withLimit 1)).execute tripled).result =
          .ok (after.insert 0 own, outcome') ∧
        outcome'.scanned = outcome.scanned ∧ outcome'.terminated = outcome.terminated ∧
        outcome'.stoppedBy = outcome.stoppedBy.map (moved 0)) ∧
    (∀ filter ∈ lasting.filters, filter.Inert) ∧
      ∃ after outcome alone outcome',
        (lasting.execute tripled).result = .ok (after, outcome) ∧
        ((⟨[Filter.any.terminate]⟩ : Query).execute tripled).result = .ok (alone, outcome') ∧
        after.resultAt 1 = alone.resultAt 0 :=
  ⟨⟨by decide, execute_insert_inert.1 halting (Filter.any.withLimit 1) 0 tripled (by decide)⟩,
    by decide, execute_insert_inert.2 lasting tripled (by decide) 1 Filter.any.terminate rfl⟩

end Insertion

section Order

/-- The two lists of matches are the same, but that one of them may end with one more handle. -/
def AgreeButFor (last : Option Handle) (a b : Array Handle) : Prop :=
  a = b ∨ ∃ handle, last = some handle ∧ (a = b.push handle ∨ b = a.push handle)

theorem AgreeButFor.symm {last : Option Handle} {a b : Array Handle} (h : AgreeButFor last a b) :
    AgreeButFor last b a := by
  rcases h with same | ⟨handle, here, more | more⟩
  · exact Or.inl same.symm
  · exact Or.inr ⟨handle, here, Or.inr more⟩
  · exact Or.inr ⟨handle, here, Or.inl more⟩

private theorem Reaches.of_perm (reaches : query.Reaches handles i j)
    (perm : query.filters.Perm other.filters) : ∃ j', other.Reaches handles i j' := by
  obtain ⟨filter, member, stops⟩ := exists_reaches_iff.mp ⟨j, reaches⟩
  exact exists_reaches_iff.mpr ⟨filter, perm.subset member, stops⟩

private theorem IsStopPoint.of_perm (stop : query.IsStopPoint handles i j)
    (perm : query.filters.Perm other.filters) : ∃ j', other.IsStopPoint handles i j' := by
  obtain ⟨j', reaches⟩ := stop.reaches.of_perm perm
  obtain ⟨i', j'', stop'⟩ := exists_isStopPoint reaches
  obtain ⟨k, back⟩ := stop'.reaches.of_perm perm.symm
  -- Each order reaches a limit at the token of the other's stop point, so neither token is later.
  have forth := stop'.least i j' reaches
  have least := stop.least i' k back
  obtain rfl : i' = i := by omega
  exact ⟨j'', stop'⟩

private theorem agreeButFor_kept_take (filter : Filter) (inside : i < handles.length)
    (seen seen' : Prop)
    [Decidable seen] [Decidable seen'] :
    AgreeButFor (handles.take (i + 1)).getLast?
      (filter.kept (handles.take (if seen then i + 1 else i))).toArray
      (filter.kept (handles.take (if seen' then i + 1 else i))).toArray := by
  have upTo : handles.take (i + 1) = handles.take i ++ [handles[i]] := by
    rw [List.take_add_one, List.getElem?_eq_getElem inside, Option.toList_some]
  have one_more : AgreeButFor (handles.take (i + 1)).getLast?
      (filter.kept (handles.take i)).toArray (filter.kept (handles.take (i + 1))).toArray := by
    rw [upTo, List.getLast?_concat]
    rcases filter.kept_append_singleton_cases (handles.take i) handles[i] with same | more
    · exact Or.inl (congrArg List.toArray same.symm)
    · refine Or.inr ⟨handles[i], rfl, Or.inr ?_⟩
      rw [more, List.push_toArray]
  split
  · split
    · exact Or.inl rfl
    · exact one_more.symm
  · split
    · exact one_more
    · exact Or.inl rfl

/-- The same filters in another order end the run at the same token, and each of them holds the same
matches in both runs, but perhaps for the last token scanned. A run that shows every token to every
filter leaves them all with the same matches. -/
theorem execute_rearranged (query other : Query) (handles : List Handle)
    (perm : query.filters.Perm other.filters) :
    ∃ after outcome after' outcome',
      (query.execute handles).result = .ok (after, outcome) ∧
      (other.execute handles).result = .ok (after', outcome') ∧
      outcome'.scanned = outcome.scanned ∧ outcome'.terminated = outcome.terminated ∧
      ∀ p q filter, query.filters[p]? = some filter → other.filters[q]? = some filter →
        AgreeButFor (handles.take outcome.scanned).getLast?
          (after.resultAt p) (after'.resultAt q) ∧
        (outcome.terminated = false → after.resultAt p = after'.resultAt q) := by
  rcases run_cases query handles with ⟨i, j, stop, ends⟩ | ⟨silent, ends⟩
  · obtain ⟨j', stop'⟩ := stop.of_perm perm
    refine ⟨_, _, _, _, execute_of_run ends, execute_of_run (run_of_isStopPoint stop'), rfl, rfl,
      ?_⟩
    intro p q filter there there'
    have inside : i < handles.length := by
      obtain ⟨_, _, _, _, here, _⟩ := stop.reaches
      exact (List.getElem?_eq_some_iff.mp here).1
    rw [resultAt_stoppedAt there, resultAt_stoppedAt there']
    exact ⟨agreeButFor_kept_take filter inside _ _, nofun⟩
  · have silent' : ∀ i j, ¬ other.Reaches handles i j := by
      intro i j reaches
      obtain ⟨j', back⟩ := reaches.of_perm perm.symm
      exact silent i j' back
    refine ⟨_, _, _, _, execute_of_run ends, execute_of_run (run_of_not_reaches silent'), rfl, rfl,
      ?_⟩
    intro p q filter there there'
    have same : (query.finished handles).resultAt p = (other.finished handles).resultAt q := by
      rw [resultAt_finished there, resultAt_finished there']
    exact ⟨Or.inl same, fun _ => same⟩

/-- The filters of `halting`, with the one that ends the pass behind the other. -/
private def watching : Query := ⟨[.any, (Filter.any.withLimit 2).terminate]⟩

/-- In front of the filter that ends the pass the other sees the last token, but not behind it. -/
theorem execute_turned :
    halting.filters.Perm watching.filters ∧
      ∃ after outcome after' outcome',
        (halting.execute tripled).result = .ok (after, outcome) ∧
        (watching.execute tripled).result = .ok (after', outcome') ∧
        outcome'.scanned = outcome.scanned ∧ outcome'.terminated = outcome.terminated ∧
        AgreeButFor (tripled.take outcome.scanned).getLast? (after.resultAt 1) (after'.resultAt 0) ∧
        after.resultAt 1 ≠ after'.resultAt 0 := by
  obtain ⟨after, outcome, after', outcome', ends, ends', scanned, terminated, agree⟩ :=
    execute_rearranged halting watching tripled (.swap _ _ _)
  refine ⟨.swap _ _ _, after, outcome, after', outcome', ends, ends', scanned, terminated,
    (agree 1 0 .any rfl rfl).1, ?_⟩
  obtain ⟨rfl, rfl⟩ := Prod.mk.inj (Except.ok.inj ends)
  obtain ⟨rfl, rfl⟩ := Prod.mk.inj (Except.ok.inj ends')
  decide

end Order

end Query

end TokenQuery
