import TokenQuery.Proofs.Scan.Answers
import TokenQuery.Proofs.Scope.Boundary
import TokenQuery.Scope.Dictionary

/-!
When a question fails. Its traversal and its specifications are checked in order before a query
runs. Main statement: every single question about a target fails with the first error of these
checks, which know nothing of the tokens, and notes nothing then; where the checks pass it is
answered by one run of a query (`questions_fail_by_checks`).
-/

set_option autoImplicit false

namespace TokenQuery

variable {α β : Type}

/-- The error of a computation that fails. -/
def error? : Except QueryError α → Option QueryError
  | .error error => some error
  | .ok _ => none

/-- The errors of a traversal and of some specifications, in the order in which they are checked. -/
def refusals (traversal : Traversal) (specs : List Spec) : List QueryError :=
  (error? traversal.check).toList ++ specs.flatMap fun spec => (error? spec.compile).toList

theorem error?_map (check : Except QueryError α) (f : α → β) :
    error? (check >>= fun a => pure (f a)) = error? check := by
  cases check <;> rfl

theorem error?_ofSpec (spec : Spec) : error? (Filter.ofSpec spec) = error? spec.compile :=
  error?_map spec.compile _

private theorem error?_boundaryFilter (boundary : Spec) :
    error? (Scan.boundaryFilter boundary) = error? boundary.compile := by
  rw [Scan.boundaryFilter, error?_map, error?_ofSpec]

private theorem error?_scanOf {σ : Type} [Scannable σ] (target : σ) (traversal : Traversal) :
    error? (Scan.of target traversal) = error? traversal.check := by
  rw [Scan.of, error?_map, pass, error?_map]

/-- A computation fails with the first of some errors, and notes nothing then. Without an error it
succeeds, and notes what one run of a query notes. -/
structure Vetted (errors : List QueryError) (asked : Traced α) : Prop where
  result_eq_error_iff : ∀ error, asked.result = .error error ↔ errors.head? = some error
  silent : errors ≠ [] → asked.events = []
  queried : errors = [] → ∃ (query : Query) (handles : List Handle) (found : α),
    asked.result = .ok found ∧ asked.events = (query.execute handles).events

namespace Vetted

variable {errors : List QueryError} {asked : Traced α}

private theorem events_resultOf (scan : Scan) (filters : List Filter) (position : Nat) :
    (scan.resultOf filters position).events =
      ((⟨filters⟩ : Query).execute scan.handles).events := List.append_nil _

private theorem of_resultOf (scan : Scan) (filters : List Filter) (position : Nat)
    (answer : Array Handle → α) :
    Vetted [] (do let found ← scan.resultOf filters position; return answer found : Traced α) := by
  have notes : (scan.resultOf filters position).events ++ [] =
      ((⟨filters⟩ : Query).execute scan.handles).events := by
    rw [List.append_nil, events_resultOf]
  rw [Traced.bind_of_ok (Scan.result_resultOf scan filters position)]
  refine ⟨?_, fun some_error => absurd rfl some_error, ?_⟩
  · intro error
    exact iff_of_false nofun nofun
  · exact fun _ => ⟨⟨filters⟩, scan.handles, _, rfl, notes⟩

theorem after {check : Except QueryError β} {next : β → Traced α}
    (passed : ∀ b, check = .ok b → Vetted errors (next b)) :
    Vetted ((error? check).toList ++ errors) (do next (← check) : Traced α) := by
  cases outcome : check with
  | error error =>
    have failed :
        (liftM (.error error : Except QueryError β) : Traced β).result = .error error := rfl
    rw [Traced.bind_of_error failed]
    refine ⟨?_, fun _ => rfl, nofun⟩
    intro other
    simp [error?]
  | ok b =>
    have went : (liftM (.ok b : Except QueryError β) : Traced β).result = .ok b := rfl
    rw [Traced.bind_of_ok went]
    exact passed b outcome

theorem map (vetted : Vetted errors asked) (f : α → β) :
    Vetted errors (do return f (← asked) : Traced β) := by
  cases outcome : asked.result with
  | error error =>
    have first := (vetted.result_eq_error_iff error).mp outcome
    rw [Traced.bind_of_error outcome]
    refine ⟨?_, vetted.silent, ?_⟩
    · intro other
      rw [← vetted.result_eq_error_iff, outcome, Except.error.injEq, Except.error.injEq]
    · rintro rfl
      cases first
  | ok found =>
    rw [Traced.bind_of_ok outcome]
    have notes : asked.events ++ (pure (f found) : Traced β).events = asked.events :=
      List.append_nil _
    rw [notes]
    refine ⟨?_, vetted.silent, ?_⟩
    · intro other
      rw [← vetted.result_eq_error_iff, outcome]
      exact iff_of_false nofun nofun
    · intro none_refused
      obtain ⟨query, handles, _, _, ran⟩ := vetted.queried none_refused
      exact ⟨query, handles, f found, rfl, ran⟩

end Vetted

namespace Scan

private theorem vetted_of {σ : Type} [Scannable σ] {specs : List Spec} {ask : Scan → Traced α}
    (target : σ) (traversal : Traversal)
    (asks : ∀ scan, Vetted (specs.flatMap fun spec => (error? spec.compile).toList) (ask scan)) :
    Vetted (refusals traversal specs) (do ask (← Scan.of target traversal) : Traced α) := by
  rw [refusals, ← error?_scanOf target]
  exact Vetted.after fun scan _ => asks scan

private theorem vetted_ofSpec {errors : List QueryError} {ask : Filter → Traced α} (spec : Spec)
    (asks : ∀ filter, Vetted errors (ask filter)) :
    Vetted ((error? spec.compile).toList ++ errors) (do ask (← Filter.ofSpec spec) : Traced α) := by
  rw [← error?_ofSpec]
  exact Vetted.after fun filter _ => asks filter

/-- A question that compiles a boundary and runs it in front of a filter. -/
private theorem vetted_behind (scan : Scan) (boundary : Spec) (filter : Filter)
    (answer : Array Handle → α) :
    Vetted ([boundary].flatMap fun spec => (error? spec.compile).toList) (do
      let boundary ← boundaryFilter boundary
      let found ← scan.resultOf [boundary, filter] 1
      return answer found : Traced α) := by
  rw [List.flatMap_cons, List.flatMap_nil, ← error?_boundaryFilter]
  exact Vetted.after fun _ _ => Vetted.of_resultOf scan _ _ _

end Scan

private theorem refusals_append_boundary (traversal : Traversal) (specs : List Spec)
    (props : Props) :
    refusals traversal (specs ++ [.criteria props.boundary]) = refusals traversal specs := by
  obtain ⟨ender, compiled⟩ := props.rules.exists_compile_boundary props.owner.token
  have accepted : error? (Spec.criteria props.boundary).compile = none := congrArg error? compiled
  rw [refusals, List.flatMap_append, List.flatMap_singleton, accepted, Option.toList_none,
    List.append_nil, refusals]

/-- A question about a target fails with the first error of its traversal, the target that it looks
for and the boundary, as far as it takes them, and runs no query then. A question about properties
fails with that of its traversal or of the target that it looks for. -/
theorem questions_fail_by_checks :
    (∀ {σ : Type} [Scannable σ] (target : σ) (traversal : Traversal) (spec boundary : Spec),
      (Vetted (refusals traversal [spec]) (do (← Scan.of target traversal).get spec) ∧
        Vetted (refusals traversal [spec]) (do (← Scan.of target traversal).last spec) ∧
        Vetted (refusals traversal [spec]) (do (← Scan.of target traversal).all spec) ∧
        Vetted (refusals traversal [spec]) (do (← Scan.of target traversal).contains spec)) ∧
      Vetted (refusals traversal [boundary]) (do (← Scan.of target traversal).before boundary) ∧
      Vetted (refusals traversal [spec, boundary])
        (do (← Scan.of target traversal).getBefore spec boundary) ∧
      Vetted (refusals traversal [spec, boundary])
        (do (← Scan.of target traversal).lastBefore spec boundary) ∧
      Vetted (refusals traversal [spec, boundary])
        (do (← Scan.of target traversal).allBefore spec boundary)) ∧
    ∀ (props : Props) (spec : Spec) (options : PropDictOptions),
      Vetted (refusals props.traversal [spec]) (props.get spec) ∧
        Vetted (refusals props.traversal [spec]) (props.last spec) ∧
        Vetted (refusals props.traversal [spec]) (props.all spec) ∧
        Vetted (refusals props.traversal []) props.tokens ∧
        Vetted (refusals props.traversal []) (props.dict options) := by
  constructor
  · intro σ _ target traversal spec boundary
    refine ⟨⟨?get, ?last, ?all, ?contains⟩, ?before, ?getBefore, ?lastBefore, ?allBefore⟩
    case get | last | all =>
      exact Scan.vetted_of target traversal fun scan =>
        Scan.vetted_ofSpec spec fun _ => .of_resultOf scan _ _ _
    case contains =>
      exact Scan.vetted_of target traversal fun scan =>
        (Scan.vetted_ofSpec spec fun _ => .of_resultOf scan _ _ _).map _
    case before =>
      exact Scan.vetted_of target traversal fun scan => scan.vetted_behind boundary _ _
    case getBefore | lastBefore | allBefore =>
      exact Scan.vetted_of target traversal fun scan =>
        Scan.vetted_ofSpec spec fun _ => scan.vetted_behind boundary _ _
  · intro props spec options
    have tokens : Vetted (refusals props.traversal []) props.tokens := by
      rw [← refusals_append_boundary _ _ props]
      exact Scan.vetted_of props.owner props.traversal fun scan => scan.vetted_behind _ _ _
    refine ⟨?get, ?last, ?all, tokens, tokens.map _⟩
    case get | last | all =>
      rw [← refusals_append_boundary _ _ props]
      exact Scan.vetted_of props.owner props.traversal fun scan =>
        Scan.vetted_ofSpec spec fun _ => scan.vetted_behind _ _ _

private def letters : Source := ⟨0, 0, ⟨"letters", [.bare "A", .bare "B"]⟩⟩

/-- A refused traversal, an unbalanced target and a boundary without a name, of which the first that
is left gives the error. -/
theorem questions_fail_in_order :
    (do (← Scan.of letters { includeSelf := true }).allBefore "[" ":" :
        Traced (List Handle)).result =
        .error .selfInclusion ∧
      (do (← Scan.of letters {}).allBefore "[" ":" : Traced (List Handle)).result =
        .error (.parse .unbalancedBrackets "[") ∧
      (do (← Scan.of letters {}).allBefore "A" ":" : Traced (List Handle)).result =
        .error (.parse .missingName ":") ∧
      (do (← Scan.of letters {}).allBefore "A" ":" : Traced (List Handle)).events = [] := by
  have asked (traversal : Traversal) (spec : Spec) :=
    (questions_fail_by_checks.1 letters traversal spec ":").2.2.2.2
  refine ⟨?_, ?_, ?_, ?_⟩
  · exact ((asked _ _).result_eq_error_iff _).mpr (by decide)
  · exact ((asked _ _).result_eq_error_iff _).mpr (by decide)
  · exact ((asked _ _).result_eq_error_iff _).mpr (by decide)
  · exact (asked _ _).silent (by decide)

end TokenQuery
