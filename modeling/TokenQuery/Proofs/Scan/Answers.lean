import Mathlib.Data.List.TakeWhile
import TokenQuery.Proofs.Query.StopPoint
import TokenQuery.Scope.Props

/-!
The answers to the single questions about a pass, read off the list of its tokens. Main statement:
the plain questions are answered from the matches in the pass, and the bounded ones from the matches
in its longest stretch without a boundary (`answers_eq`).
-/

set_option autoImplicit false

namespace TokenQuery

namespace Matcher

/-- The matches of a matcher among the tokens of a pass. -/
def among (target : Matcher) (handles : List Handle) : List Handle :=
  handles.filter fun handle => target.accepts handle.token

/-- The tokens of a pass before the first one that the matcher of a boundary accepts. -/
def stretch (boundary : Matcher) (handles : List Handle) : List Handle :=
  handles.takeWhile fun handle => !boundary.accepts handle.token

variable {target boundary : Matcher} {handles part : List Handle} {handle : Handle}

theorem among_eq_nil_iff :
    target.among handles = [] ↔ ∀ handle ∈ handles, target.accepts handle.token = false := by
  simp [among]

theorem stretch_prefix (boundary : Matcher) (handles : List Handle) :
    boundary.stretch handles <+: handles := List.takeWhile_prefix _

theorem refused_of_mem_stretch (h : handle ∈ boundary.stretch handles) :
    boundary.accepts handle.token = false := by
  have refused := List.mem_takeWhile_imp h
  simpa using refused

theorem prefix_stretch (h : part <+: handles)
    (free : ∀ handle ∈ part, boundary.accepts handle.token = false) :
    part <+: boundary.stretch handles := by
  obtain ⟨rest, rfl⟩ := h
  unfold stretch
  rw [List.takeWhile_append_of_pos fun handle member => by simp [free handle member]]
  exact List.prefix_append _ _

private theorem stretch_eq_take_findIdx (boundary : Matcher) (handles : List Handle) :
    boundary.stretch handles =
      handles.take (handles.findIdx fun handle => boundary.accepts handle.token) := by
  simp [stretch, List.takeWhile_eq_take_findIdx_not]

end Matcher

namespace Query

variable {ender : Filter} {rest : List Filter} {handles : List Handle} {i : Nat}

/-- A query whose first filter ends the pass at its first match, and whose other filters end no
pass, has that match for its stop point. -/
private theorem isStopPoint_of_first_match (limit : ender.limit = some 1)
    (terminating : ender.terminating = true) (others : ∀ filter ∈ rest, filter.terminating = false)
    (first : handles.findIdx? (fun handle => ender.matcher.accepts handle.token) = some i) :
    (⟨ender :: rest⟩ : Query).IsStopPoint handles i 0 := by
  obtain ⟨inside, accepted, before⟩ := List.findIdx?_eq_some_iff_getElem.mp first
  have unmatched : ender.matched (handles.take i) = [] := by
    refine List.filter_eq_nil_iff.mpr ?_
    intro handle member
    obtain ⟨position, bound, rfl⟩ := List.mem_take_iff_getElem.mp member
    exact before position (by omega)
  constructor
  · rw [reaches_iff_stopsOn]
    refine ⟨ender, handles[i], rfl, List.getElem?_eq_getElem inside, ?_⟩
    simp [Filter.stopsOn, terminating, accepted, limit, unmatched]
  · intro i' j' reaches
    obtain ⟨filter, handle, k, there, here, stops, _, match', _⟩ := reaches
    cases j' with
    | zero =>
      obtain rfl : ender = filter := Option.some.inj there
      obtain ⟨inside', rfl⟩ := List.getElem?_eq_some_iff.mp here
      have late : i ≤ i' := Nat.le_of_not_lt fun early => before i' early match'
      omega
    | succ j' =>
      have member : filter ∈ rest := List.mem_of_getElem? there
      rw [others filter member] at stops
      cases stops

private theorem not_reaches_of_no_match (others : ∀ filter ∈ rest, filter.terminating = false)
    (never : handles.findIdx? (fun handle => ender.matcher.accepts handle.token) = none)
    (i j : Nat) : ¬ (⟨ender :: rest⟩ : Query).Reaches handles i j := by
  rintro ⟨filter, handle, k, there, here, stops, _, match', _⟩
  cases j with
  | zero =>
    obtain rfl : ender = filter := Option.some.inj there
    have refused := List.findIdx?_eq_none_iff.mp never handle (List.mem_of_getElem? here)
    rw [match'] at refused
    cases refused
  | succ j =>
    have member : filter ∈ rest := List.mem_of_getElem? there
    rw [others filter member] at stops
    cases stops

private theorem resultAt_one_of_ender {target : Filter} (limit : ender.limit = some 1)
    (terminating : ender.terminating = true) (plain : target.terminating = false) :
    ((⟨[ender, target]⟩ : Query).run handles).1.resultAt 1 =
      (target.kept (ender.matcher.stretch handles)).toArray := by
  have others : ∀ filter ∈ [target], filter.terminating = false := by simpa using plain
  rw [Matcher.stretch_eq_take_findIdx]
  cases first : handles.findIdx? (fun handle => ender.matcher.accepts handle.token) with
  | some i =>
    rw [run_of_isStopPoint (isStopPoint_of_first_match limit terminating others first),
      (List.findIdx?_eq_some_iff_findIdx_eq.mp first).2]
    simp [stoppedAt, resultAt]
  | none =>
    rw [run_of_not_reaches (not_reaches_of_no_match others first),
      List.findIdx_eq_length.mpr (by simpa using first)]
    simp [finished, resultAt]

theorem resultAt_zero_of_ender (limit : ender.limit = some 1)
    (terminating : ender.terminating = true) :
    ((⟨[ender]⟩ : Query).run handles).1.resultAt 0 = ((ender.matched handles).take 1).toArray := by
  have others : ∀ filter ∈ ([] : List Filter), filter.terminating = false := by simp
  cases first : handles.findIdx? (fun handle => ender.matcher.accepts handle.token) with
  | some i =>
    have stop := isStopPoint_of_first_match limit terminating others first
    obtain ⟨filter, handle, k, there, _, _, limit', _, count⟩ := stop.reaches
    obtain rfl : ender = filter := Option.some.inj there
    obtain rfl : 1 = k := Option.some.inj (limit.symm.trans limit')
    have split : ender.matched handles =
        ender.matched (handles.take (i + 1)) ++ ender.matched (handles.drop (i + 1)) := by
      unfold Filter.matched
      rw [← List.filter_append, List.take_append_drop]
    rw [run_of_isStopPoint stop, split, List.take_append_of_le_length (Nat.le_of_eq count.symm)]
    simp [stoppedAt, resultAt, Filter.kept_of_limit_some limit]
  | none =>
    rw [run_of_not_reaches (not_reaches_of_no_match others first)]
    simp [finished, resultAt, Filter.kept_of_limit_some limit]

theorem resultAt_zero_of_plain {target : Filter} (plain : target.terminating = false) :
    ((⟨[target]⟩ : Query).run handles).1.resultAt 0 = (target.kept handles).toArray := by
  have silent : ∀ i j, ¬ (⟨[target]⟩ : Query).Reaches handles i j := by
    rintro i j ⟨filter, _, _, there, _, stops, _⟩
    have member : filter ∈ [target] := List.mem_of_getElem? there
    rw [List.mem_singleton.mp member, plain] at stops
    cases stops
  rw [run_of_not_reaches silent]
  simp [finished, resultAt]

end Query

theorem pass_eq_ok_iff {σ : Type} [Scannable σ] {target : σ} {traversal : Traversal}
    {handles : List Handle} :
    pass target traversal = .ok handles ↔
      traversal.check = .ok () ∧ handles = Scannable.tokens target traversal := by
  unfold pass
  cases traversal.check with
  | error error => simp [bind, Except.bind]
  | ok _ => simp [bind, Except.bind, pure, Except.pure, eq_comm]

namespace Scan

variable {scan : Scan} {spec boundary : Spec} {target ender : Matcher}

theorem of_eq_ok_iff {σ : Type} [Scannable σ] {target : σ} {traversal : Traversal} :
    Scan.of target traversal = .ok scan ↔ pass target traversal = .ok scan.handles := by
  unfold Scan.of
  cases pass target traversal with
  | error error => simp [bind, Except.bind]
  | ok handles =>
    obtain ⟨given⟩ := scan
    simp [bind, Except.bind, pure, Except.pure]

private theorem of_of_check {σ : Type} [Scannable σ] {target : σ} {traversal : Traversal}
    (accepted : traversal.check = .ok ()) :
    Scan.of target traversal = .ok ⟨Scannable.tokens target traversal⟩ := by
  simp [Scan.of, pass, accepted, bind, Except.bind, pure, Except.pure]

theorem result_asked {α σ : Type} [Scannable σ] {target : σ} {traversal : Traversal}
    (ask : Scan → Traced α) (accepted : traversal.check = .ok ()) :
    (do ask (← Scan.of target traversal) : Traced α).result =
      (ask ⟨Scannable.tokens target traversal⟩).result := by
  have passed : (liftM (Scan.of target traversal) : Traced Scan).result =
      .ok ⟨Scannable.tokens target traversal⟩ := of_of_check accepted
  exact Traced.result_bind_of_ok passed

private theorem ofSpec_of_compile (h : spec.compile = .ok target) :
    Filter.ofSpec spec = .ok { matcher := target } := by
  simp [Filter.ofSpec, h, bind, Except.bind, pure, Except.pure]

private theorem boundaryFilter_of_compile (h : boundary.compile = .ok ender) :
    boundaryFilter boundary = .ok { matcher := ender, limit := some 1, terminating := true } := by
  simp [boundaryFilter, ofSpec_of_compile h, Filter.withLimit, Filter.terminate, bind, Except.bind,
    pure, Except.pure]

theorem result_resultOf (scan : Scan) (filters : List Filter) (position : Nat) :
    (scan.resultOf filters position).result =
      .ok (((⟨filters⟩ : Query).run scan.handles).1.resultAt position) := rfl

private theorem result_alone {α : Type} (answer : Array Handle → α)
    (h : spec.compile = .ok target) :
    (do
      let target ← Filter.ofSpec spec
      let found ← scan.resultOf [target] 0
      return answer found : Traced α).result =
      .ok (answer (target.among scan.handles).toArray) := by
  rw [Traced.result_bind_of_ok (ofSpec_of_compile h),
    Traced.result_bind_of_ok (result_resultOf _ _ _), Query.resultAt_zero_of_plain rfl,
    Filter.kept_of_limit_none rfl]
  rfl

theorem result_all (h : spec.compile = .ok target) :
    (scan.all spec).result = .ok (target.among scan.handles) :=
  result_alone Array.toList h

private theorem result_last (h : spec.compile = .ok target) :
    (scan.last spec).result = .ok (target.among scan.handles).getLast? := by
  rw [← List.back?_toArray]
  exact result_alone Array.back? h

theorem first_of_take_one (handles : List Handle) :
    (handles.take 1).toArray[0]? = handles.head? := by
  rw [List.getElem?_toArray, List.getElem?_take_of_lt Nat.zero_lt_one, List.head?_eq_getElem?]

private theorem result_get (h : spec.compile = .ok target) :
    (scan.get spec).result = .ok (target.among scan.handles).head? := by
  unfold get
  rw [Traced.result_bind_of_ok (ofSpec_of_compile h),
    Traced.result_bind_of_ok (result_resultOf _ _ _), Query.resultAt_zero_of_ender rfl rfl]
  exact congrArg Except.ok (first_of_take_one _)

private theorem result_contains (h : spec.compile = .ok target) :
    (scan.contains spec).result = .ok (!(target.among scan.handles).isEmpty) := by
  unfold contains
  rw [Traced.result_bind_of_ok (result_get h)]
  have some_iff : (target.among scan.handles).head?.isSome =
      !(target.among scan.handles).isEmpty := by
    cases target.among scan.handles <;> rfl
  exact congrArg Except.ok some_iff

private theorem result_behind {α : Type} (scan : Scan) (filter : Filter) (answer : Array Handle → α)
    (plain : filter.terminating = false) (h : boundary.compile = .ok ender) :
    (do
      let boundary ← boundaryFilter boundary
      let found ← scan.resultOf [boundary, filter] 1
      return answer found : Traced α).result =
      .ok (answer (filter.kept (ender.stretch scan.handles)).toArray) := by
  rw [Traced.result_bind_of_ok (boundaryFilter_of_compile h),
    Traced.result_bind_of_ok (result_resultOf _ _ _), Query.resultAt_one_of_ender rfl rfl plain]
  rfl

theorem result_before (h : boundary.compile = .ok ender) :
    (scan.before boundary).result = .ok (ender.stretch scan.handles) := by
  have every : Filter.any.kept (ender.stretch scan.handles) = ender.stretch scan.handles :=
    List.filter_eq_self.mpr fun handle _ => Matcher.accepts_any handle.token
  have found := result_behind scan Filter.any Array.toList rfl h
  rw [every] at found
  exact found

private theorem result_allBefore (h : spec.compile = .ok target)
    (hb : boundary.compile = .ok ender) :
    (scan.allBefore spec boundary).result =
      .ok (target.among (ender.stretch scan.handles)) := by
  unfold allBefore
  rw [Traced.result_bind_of_ok (ofSpec_of_compile h)]
  exact result_behind scan { matcher := target } Array.toList rfl hb

private theorem result_lastBefore (h : spec.compile = .ok target)
    (hb : boundary.compile = .ok ender) :
    (scan.lastBefore spec boundary).result =
      .ok (target.among (ender.stretch scan.handles)).getLast? := by
  unfold lastBefore
  rw [Traced.result_bind_of_ok (ofSpec_of_compile h), ← List.back?_toArray]
  exact result_behind scan { matcher := target } Array.back? rfl hb

private theorem result_getBefore (h : spec.compile = .ok target)
    (hb : boundary.compile = .ok ender) :
    (scan.getBefore spec boundary).result =
      .ok (target.among (ender.stretch scan.handles)).head? := by
  unfold getBefore
  rw [Traced.result_bind_of_ok (ofSpec_of_compile h), ← first_of_take_one]
  exact result_behind scan { matcher := target, limit := some 1 } (·[0]?) rfl hb

/-- The plain questions about a pass are answered from all its matches, and the bounded ones from
the matches in its longest prefix without a boundary, in which a match that is a boundary itself
never stands. What yields a pass under a traversal is asked about that pass, and the questions about
properties are the bounded ones with the boundary of the owner. -/
theorem answers_eq (scan : Scan) (spec boundary : Spec) (target ender : Matcher)
    (hs : spec.compile = .ok target) (hb : boundary.compile = .ok ender) :
    ((scan.all spec).result = .ok (target.among scan.handles) ∧
      (scan.get spec).result = .ok (target.among scan.handles).head? ∧
      (scan.last spec).result = .ok (target.among scan.handles).getLast? ∧
      (scan.contains spec).result = .ok (!(target.among scan.handles).isEmpty)) ∧
    ((scan.before boundary).result = .ok (ender.stretch scan.handles) ∧
      (scan.allBefore spec boundary).result =
        .ok (target.among (ender.stretch scan.handles)) ∧
      (scan.getBefore spec boundary).result =
        .ok (target.among (ender.stretch scan.handles)).head? ∧
      (scan.lastBefore spec boundary).result =
        .ok (target.among (ender.stretch scan.handles)).getLast?) ∧
    (ender.stretch scan.handles <+: scan.handles ∧
      (∀ handle ∈ ender.stretch scan.handles, ender.accepts handle.token = false) ∧
      ∀ part, part <+: scan.handles → (∀ handle ∈ part, ender.accepts handle.token = false) →
        part <+: ender.stretch scan.handles) ∧
    (∀ {σ : Type} [Scannable σ] (source : σ) (traversal : Traversal),
      pass source traversal = .ok scan.handles → Scan.of source traversal = .ok scan) ∧
    (∀ props : Props, props.scan = .ok scan → Spec.criteria props.boundary = boundary →
      (props.get spec).result = .ok (target.among (ender.stretch scan.handles)).head? ∧
      (props.last spec).result = .ok (target.among (ender.stretch scan.handles)).getLast? ∧
      (props.all spec).result = .ok (target.among (ender.stretch scan.handles)) ∧
      props.tokens.result = .ok (ender.stretch scan.handles)) := by
  refine ⟨⟨result_all hs, result_get hs, result_last hs, result_contains hs⟩,
    ⟨result_before hb, result_allBefore hs hb, result_getBefore hs hb, result_lastBefore hs hb⟩,
    ⟨ender.stretch_prefix _, fun _ => Matcher.refused_of_mem_stretch,
      fun _ => Matcher.prefix_stretch⟩, fun _ _ => of_eq_ok_iff.mpr, ?_⟩
  rintro props own rfl
  have passed : (liftM props.scan : Traced Scan).result = .ok scan := own
  refine ⟨?_, ?_, ?_, ?_⟩
  · exact (Traced.result_bind_of_ok passed).trans (result_getBefore hs hb)
  · exact (Traced.result_bind_of_ok passed).trans (result_lastBefore hs hb)
  · exact (Traced.result_bind_of_ok passed).trans (result_allBefore hs hb)
  · exact (Traced.result_bind_of_ok passed).trans (result_before hb)

private def record : Source := ⟨0, 0, ⟨"s", [.bare "A", ⟨"B", ["1"]⟩, .bare "C"]⟩⟩

private def opening : Handle := ⟨record, 0, by decide⟩

private def ending : Handle := ⟨record, 1, by decide⟩

private def closing : Handle := ⟨record, 2, by decide⟩

/-- A target that also matches the boundary, in a pass that yields tokens repeatedly. -/
theorem answers_at_repeated_handles :
    Spec.compile (.criteria .any) = .ok .any ∧
      Spec.compile (.criteria (Criteria.any.withName "B")) = .ok { name := [.exact "B"] } ∧
      ((⟨[opening, closing, opening, ending, closing]⟩ : Scan).allBefore (.criteria .any)
        (.criteria (Criteria.any.withName "B"))).result = .ok [opening, closing, opening] :=
  ⟨rfl, rfl, (answers_eq _ _ _ .any { name := [.exact "B"] } rfl rfl).2.1.2.1⟩

end Scan

end TokenQuery
