import Mathlib.Data.List.Infix
import TokenQuery.Proofs.Query.Arrangement
import TokenQuery.Proofs.Scan.Answers
import TokenQuery.Proofs.Traversal.Full

/-!
Runs over longer passes. A pass within a range begins the pass within a wider one. Main statement:
of every target, a query keeps over the wider pass what it finds over the narrower one, and where it
ends the narrower one by itself it does not see the rest (`wider_pass_extends`).
-/

set_option autoImplicit false

namespace TokenQuery

namespace Traversal

variable {range wider : Option Nat}

/-- The range allows no token that the wider one does not. No range allows all tokens. -/
def Within (range wider : Option Nat) : Prop := ∀ most ∈ wider, ∃ fewer ∈ range, fewer ≤ most

private theorem limited_prefix_limited {α : Type} (within : Within range wider) (reverse : Bool)
    (items : List α) :
    limited { reverse, range } items <+: limited { reverse, range := wider } items := by
  cases wider with
  | none =>
    cases range with
    | none => exact List.prefix_refl _
    | some fewer => exact List.take_prefix _ _
  | some most =>
    obtain ⟨fewer, bound, ordered⟩ := within most rfl
    obtain rfl := Option.mem_def.mp bound
    exact List.take_prefix_take_left ordered

end Traversal

namespace Filter

variable {filter : Filter} {seen more : List Handle}

private theorem kept_prefix_kept (begins : seen <+: more) (filter : Filter) :
    filter.kept seen <+: filter.kept more := by
  have matched : filter.matched seen <+: filter.matched more := begins.filter _
  unfold kept
  split
  · exact matched
  · exact List.IsPrefix.take matched _

end Filter

namespace Query

variable {query : Query} {handles rest : List Handle} {i j : Nat}

/-- What a query gives over a longer pass, against what it gives over a shorter one: each filter
adds to its matches, no fewer tokens are scanned, and a run that ended by itself is the same. -/
structure Extends (shorter longer : Query × Outcome) : Prop where
  prefix_result : ∀ position,
    (shorter.1.resultAt position).toList <+: (longer.1.resultAt position).toList
  scanned_le : shorter.2.scanned ≤ longer.2.scanned
  eq_of_terminated : shorter.2.terminated = true → longer = shorter

private theorem reaches_append_iff (inside : i < handles.length) :
    query.Reaches (handles ++ rest) i j ↔ query.Reaches handles i j := by
  rw [reaches_iff_stopsOn, reaches_iff_stopsOn, List.getElem?_append_left inside,
    List.take_append_of_le_length (Nat.le_of_lt inside)]

private theorem Reaches.lt_length (reaches : query.Reaches handles i j) : i < handles.length := by
  obtain ⟨_, _, _, _, here, _⟩ := reaches
  exact (List.getElem?_eq_some_iff.mp here).1

theorem IsStopPoint.append (stop : query.IsStopPoint handles i j) (rest : List Handle) :
    query.IsStopPoint (handles ++ rest) i j := by
  refine ⟨(reaches_append_iff stop.reaches.lt_length).mpr stop.reaches, ?_⟩
  intro i' j' reaches
  rcases Nat.lt_or_ge i' handles.length with inside | beyond
  · exact stop.least i' j' ((reaches_append_iff inside).mp reaches)
  · exact .inl (Nat.lt_of_lt_of_le stop.reaches.lt_length beyond)

private theorem stoppedAt_append (inside : i < handles.length) (rest : List Handle) :
    query.stoppedAt (handles ++ rest) i j = query.stoppedAt handles i j := by
  have same (position : Nat) :
      (handles ++ rest).take (if position ≤ j then i + 1 else i) =
        handles.take (if position ≤ j then i + 1 else i) := by
    refine List.take_append_of_le_length ?_
    split
    · exact inside
    · exact Nat.le_of_lt inside
  simp only [stoppedAt, same]

private theorem resultAt_finished_prefix_of_seen {after : Query}
    (seenOn : ∀ position filter, query.filters[position]? = some filter →
      ∃ seen, handles <+: seen ∧ after.resultAt position = (filter.kept seen).toArray)
    (position : Nat) :
    ((query.finished handles).resultAt position).toList <+: (after.resultAt position).toList := by
  cases there : query.filters[position]? with
  | none =>
    have empty : (query.finished handles).resultAt position = #[] := by
      simp [finished, resultAt, there]
    rw [empty]
    exact List.nil_prefix
  | some filter =>
    obtain ⟨seen, begins, holds⟩ := seenOn position filter there
    rw [resultAt_finished there, holds]
    exact filter.kept_prefix_kept begins

/-- A run over more tokens extends the run over the first of them. It stops where that one stops, or
it goes on behind its end. -/
private theorem run_append (query : Query) (handles rest : List Handle) :
    Extends (query.run handles) (query.run (handles ++ rest)) := by
  rcases run_cases query handles with ⟨i, j, stop, ends⟩ | ⟨silent, ends⟩
  · have same : query.run (handles ++ rest) = query.run handles := by
      rw [run_of_isStopPoint (stop.append rest), stoppedAt_append stop.reaches.lt_length, ends]
    rw [same]
    exact ⟨fun _ => List.prefix_refl _, Nat.le_refl _, fun _ => rfl⟩
  · rcases run_cases query (handles ++ rest) with ⟨i, j, stop, ends'⟩ | ⟨_, ends'⟩
    · have late : handles.length ≤ i := by
        refine Nat.le_of_not_lt fun inside => ?_
        exact silent i j ((reaches_append_iff inside).mp stop.reaches)
      rw [ends, ends']
      refine ⟨resultAt_finished_prefix_of_seen ?_, Nat.le_succ_of_le late, nofun⟩
      intro position filter there
      refine ⟨_, List.prefix_take_iff.mpr ⟨List.prefix_append handles rest, ?_⟩,
        resultAt_stoppedAt there⟩
      split
      · exact Nat.le_succ_of_le late
      · exact late
    · rw [ends, ends']
      refine ⟨resultAt_finished_prefix_of_seen ?_, (List.prefix_append handles rest).length_le,
        nofun⟩
      exact fun position filter there => ⟨_, List.prefix_append _ _, resultAt_finished there⟩

/-- What a query gives over a pass of a target. -/
def runOver {σ : Type} [Scannable σ] (query : Query) (target : σ) (traversal : Traversal) :
    Traced (Query × Outcome) := do
  (← Scan.of target traversal).query query

/-- Both passes of the target are made, and what the query gives over the second extends what it
gives over the first. -/
def ExtendsOver {σ : Type} [Scannable σ] (query : Query) (target : σ) (first second : Traversal) :
    Prop :=
  ∃ shorter longer, (query.runOver target first).result = .ok shorter ∧
    (query.runOver target second).result = .ok longer ∧ Extends shorter longer

private theorem result_runOver {σ : Type} [Scannable σ] (target : σ) {traversal : Traversal}
    (accepted : traversal.check = .ok ()) :
    (query.runOver target traversal).result = .ok (query.run (Scannable.tokens target traversal)) :=
  Scan.result_asked (·.query query) accepted

private theorem extendsOver_of_tokens_eq {σ : Type} [Scannable σ] {target : σ}
    {onward backward : List Handle}
    (tokens_eq : ∀ traversal, Scannable.tokens target traversal =
      traversal.limited (if traversal.reverse then backward else onward))
    {range wider : Option Nat} (within : Traversal.Within range wider) (reverse : Bool) :
    ExtendsOver query target { reverse, range } { reverse, range := wider } := by
  refine ⟨_, _, result_runOver target rfl, result_runOver target rfl, ?_⟩
  rw [tokens_eq, tokens_eq]
  obtain ⟨rest, longer⟩ :=
    Traversal.limited_prefix_limited within reverse (if reverse then backward else onward)
  rw [← longer]
  exact query.run_append _ rest

/-- Over a pass within a wider range every filter of a query adds to its matches, if it changes at
all, and no fewer tokens are scanned; and a run that a filter ends is the same over the wider pass.
This holds of a source, of the tokens on either side of one token, and of a dataset, where the range
counts across the sources. -/
theorem wider_pass_extends {range wider : Option Nat} (within : Traversal.Within range wider)
    (reverse : Bool) (query : Query) :
    (∀ source : Source,
      ExtendsOver query source { reverse, range } { reverse, range := wider }) ∧
    (∀ handle : Handle,
      ExtendsOver query handle { reverse, range } { reverse, range := wider }) ∧
    ∀ dataset : Dataset,
      ExtendsOver query dataset { reverse, range } { reverse, range := wider } :=
  ⟨fun source => extendsOver_of_tokens_eq source.tokens_eq within reverse,
    fun handle => extendsOver_of_tokens_eq handle.tokens_eq within reverse,
    fun dataset => extendsOver_of_tokens_eq dataset.tokens_eq within reverse⟩

private def halls : Dataset :=
  .ofSequences [⟨"east", [.bare "A", .bare "B"]⟩, ⟨"west", [.bare "A", .bare "C", .bare "A"]⟩]

/-- A filter that ends the pass at its second match, in front of one that takes every token. -/
private def twoOfA : Query :=
  ⟨[({ matcher := { name := [.exact "A"] }, limit := some 2, terminating := true } : Filter), .any]⟩

/-- The second match stands in the second source, at the end of a pass of three tokens. -/
theorem wider_pass_extends_across_sources :
    Traversal.Within (some 3) none ∧
      ∃ ended, (twoOfA.runOver halls { range := some 3 }).result = .ok ended ∧
        ended.2 = ⟨3, some 0⟩ ∧ (twoOfA.runOver halls {}).result = .ok ended := by
  have within : Traversal.Within (some 3) none := nofun
  obtain ⟨shorter, longer, ran, ran', grows⟩ :=
    (wider_pass_extends within false twoOfA).2.2 halls
  have ended : shorter.2 = ⟨3, some 0⟩ := by
    have known : (twoOfA.runOver halls { range := some 3 }).result.toOption.map (·.2) =
        some ⟨3, some 0⟩ := by decide
    rw [ran] at known
    exact Option.some.inj known
  obtain rfl := grows.eq_of_terminated (by rw [ended]; rfl)
  exact ⟨within, _, ran, ended, ran'⟩

end Query

end TokenQuery
