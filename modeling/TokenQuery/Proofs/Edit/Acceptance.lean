import TokenQuery.Proofs.Edit.Commit

/-!
Which batches a sequence accepts. The edits at one token decide by themselves whether they go
through: each of them has to find the argument that it asks for. Main statement: a batch is applied
exactly when all its edits name tokens of the sequence and go through at each of them
(`apply_eq_ok_iff`).
-/

set_option autoImplicit false

namespace TokenQuery

namespace Mutation

/-- Each of the mutations finds the argument that it asks for, after the ones before it. -/
def GoThrough (args : List String) : List Mutation → Prop
  | [] => True
  | mutation :: rest =>
    (∀ position, mutation.position? = some position → position < args.length) ∧
      GoThrough (mutation.effect args) rest

variable {args : List String} {mutations : List Mutation}

theorem goThrough_append {others : List Mutation} :
    GoThrough args (mutations ++ others) ↔
      GoThrough args mutations ∧ GoThrough (mutations.foldl effect args) others := by
  induction mutations generalizing args with
  | nil => simp [GoThrough]
  | cons mutation rest ih => simp only [List.cons_append, GoThrough, ih, List.foldl_cons, and_assoc]

/-- Removals ask for nothing and change no arguments, so the others do not notice them. -/
theorem goThrough_filter :
    GoThrough args (mutations.filter (· ≠ .remove)) ↔ GoThrough args mutations := by
  induction mutations generalizing args with
  | nil => rfl
  | cons mutation rest ih =>
    by_cases removes : mutation = .remove
    · rw [List.filter_cons_of_neg (by simp [removes]), ih, removes]
      simp [GoThrough, position?, effect]
    · rw [List.filter_cons_of_pos (by simp [removes]), GoThrough, GoThrough, ih]

theorem foldl_effect_filter :
    (mutations.filter (· ≠ .remove)).foldl effect args = mutations.foldl effect args := by
  induction mutations generalizing args with
  | nil => rfl
  | cons mutation rest ih =>
    by_cases removes : mutation = .remove
    · rw [List.filter_cons_of_neg (by simp [removes]), ih, removes]
      rfl
    · rw [List.filter_cons_of_pos (by simp [removes]), List.foldl_cons, ih, List.foldl_cons]

end Mutation

namespace Batch

variable {batch other : List Edit} {edit : Edit} {location : Location} {args : List String}
  {token : Token}

theorem mutationsAt_append :
    mutationsAt (batch ++ other) location =
      mutationsAt batch location ++ mutationsAt other location := by
  simp [mutationsAt]

theorem argsAfter_append :
    argsAfter (batch ++ other) location args =
      argsAfter other location (argsAfter batch location args) := by
  rw [argsAfter, mutationsAt_append, List.foldl_append]
  rfl

end Batch

namespace Sequence

variable {sequence : Sequence} {earlier batch : List Edit} {edit : Edit} {staged next : Staged}

/-- All edits of the batch name tokens of the sequence, and at each token they go through. -/
structure Accepts (sequence : Sequence) (batch : List Edit) : Prop where
  own : ∀ edit ∈ batch, edit.location.source = sequence.name
  inside : ∀ edit ∈ batch, edit.location.index < sequence.size
  goThrough : ∀ index token, sequence.tokens[index]? = some token →
    Mutation.GoThrough token.args (Batch.mutationsAt batch ⟨sequence.name, index⟩)

private theorem refusal?_eq_none_iff (own : edit.location.source = sequence.name) :
    sequence.refusal? earlier edit = none ↔
      edit.location.index < sequence.size ∧
        ∀ token, sequence.tokens[edit.location.index]? = some token →
          ∀ position, edit.mutation.position? = some position →
            position < (Batch.argsAfter earlier edit.location token.args).length := by
  rw [Option.eq_none_iff_forall_ne_some]
  simp only [ne_eq, refusal?_eq_some_iff]
  constructor
  · intro accepted
    refine ⟨Nat.lt_of_not_le fun beyond => accepted _ (.noToken own beyond), ?_⟩
    intro token found position asks
    exact Nat.lt_of_not_le fun beyond => accepted _ (.noArgument own found asks beyond)
  · rintro ⟨inside, finds⟩ error (⟨_, beyond⟩ | ⟨_, found, asks, beyond⟩)
    · exact Nat.not_lt.mpr beyond inside
    · exact Nat.not_lt.mpr beyond (finds _ found _ asks)

private theorem goThrough_single_iff (own : edit.location.source = sequence.name) :
    (∀ index token, sequence.tokens[index]? = some token →
      Mutation.GoThrough (Batch.argsAfter earlier ⟨sequence.name, index⟩ token.args)
        (Batch.mutationsAt [edit] ⟨sequence.name, index⟩)) ↔
    ∀ token, sequence.tokens[edit.location.index]? = some token →
      ∀ position, edit.mutation.position? = some position →
        position < (Batch.argsAfter earlier edit.location token.args).length := by
  obtain ⟨⟨source, index⟩, mutation⟩ := edit
  obtain rfl : source = sequence.name := own
  constructor
  · intro goThrough token found
    simpa [Batch.mutationsAt, Mutation.GoThrough] using goThrough index token found
  · intro finds other token found
    by_cases same : index = other
    · subst same
      simpa [Batch.mutationsAt, Mutation.GoThrough] using finds token found
    · simp [Batch.mutationsAt, same, Mutation.GoThrough]

private theorem firstRefusal?_eq_none_iff_goThrough
    (own : ∀ edit ∈ batch, edit.location.source = sequence.name) :
    sequence.firstRefusal? earlier batch = none ↔
      (∀ edit ∈ batch, edit.location.index < sequence.size) ∧
        ∀ index token, sequence.tokens[index]? = some token →
          Mutation.GoThrough (Batch.argsAfter earlier ⟨sequence.name, index⟩ token.args)
            (Batch.mutationsAt batch ⟨sequence.name, index⟩) := by
  induction batch generalizing earlier with
  | nil => simp [firstRefusal?, Batch.mutationsAt, Mutation.GoThrough]
  | cons edit rest ih =>
    obtain ⟨here, later⟩ := List.forall_mem_cons.mp own
    have split (index : Nat) : Batch.mutationsAt (edit :: rest) ⟨sequence.name, index⟩ =
        Batch.mutationsAt [edit] ⟨sequence.name, index⟩ ++
          Batch.mutationsAt rest ⟨sequence.name, index⟩ := by
      rw [← Batch.mutationsAt_append, List.singleton_append]
    rw [firstRefusal?, Option.or_eq_none_iff, refusal?_eq_none_iff here, ih later,
      List.forall_mem_cons, ← goThrough_single_iff here]
    simp only [split, Batch.argsAfter_append, Mutation.goThrough_append]
    constructor
    · rintro ⟨⟨inside, goes⟩, others, onward⟩
      exact ⟨⟨inside, others⟩, fun i token found => ⟨goes i token found, onward i token found⟩⟩
    · rintro ⟨⟨inside, others⟩, goes⟩
      exact ⟨⟨inside, fun i token found => (goes i token found).1⟩, others,
        fun i token found => (goes i token found).2⟩

private theorem own_of_add (added : Staged.add sequence staged edit = .ok next) :
    edit.location.source = sequence.name := by
  by_contra foreign
  simp [Staged.add, foreign] at added

private theorem own_of_stage (succeeds : batch.foldlM (Staged.add sequence) staged = .ok next) :
    ∀ edit ∈ batch, edit.location.source = sequence.name := by
  induction batch generalizing staged with
  | nil => nofun
  | cons edit rest ih =>
    rw [List.foldlM_cons] at succeeds
    cases added : Staged.add sequence staged edit with
    | error error =>
      rw [added] at succeeds
      cases succeeds
    | ok between =>
      rw [added] at succeeds
      exact List.forall_mem_cons.mpr ⟨own_of_add added, ih succeeds⟩

theorem accepts_iff_firstRefusal?_eq_none
    (own : ∀ edit ∈ batch, edit.location.source = sequence.name) :
    sequence.Accepts batch ↔ sequence.firstRefusal? [] batch = none := by
  rw [firstRefusal?_eq_none_iff_goThrough own]
  exact ⟨fun accepts => ⟨accepts.inside, accepts.goThrough⟩,
    fun ⟨inside, goThrough⟩ => ⟨own, inside, goThrough⟩⟩

theorem accepts_nil : sequence.Accepts [] := ⟨nofun, nofun, fun _ _ _ => trivial⟩

theorem accepts_of_stage (succeeds : sequence.stage batch = .ok staged) :
    sequence.Accepts batch := by
  have own := own_of_stage succeeds
  refine (accepts_iff_firstRefusal?_eq_none own).mpr ?_
  refine Option.eq_none_iff_forall_ne_some.mpr fun error first => ?_
  have fails := stage_of_firstRefusal first
  rw [ownEdits_of_own own, succeeds] at fails
  cases fails

theorem result_apply (sequence : Sequence) (batch : List Edit) :
    (sequence.apply batch).result =
      (sequence.stage batch).map fun staged => (staged.edits, sequence.commit staged) := by
  rw [apply, Traced.result_bind]
  cases staging : sequence.stage batch with
  | error error => rfl
  | ok staged => rfl

/-- A batch is applied exactly when the sequence accepts it. Every edit counts, and the sequence is
rewritten. -/
theorem apply_eq_ok_iff {outcome : Nat × Sequence} :
    (sequence.apply batch).result = .ok outcome ↔
      sequence.Accepts batch ∧ outcome = (batch.length, sequence.rewritten batch) := by
  have applied (accepts : sequence.Accepts batch) :
      (sequence.apply batch).result = .ok (batch.length, sequence.rewritten batch) :=
    apply_of_accepted accepts.own ((accepts_iff_firstRefusal?_eq_none accepts.own).mp accepts)
  constructor
  · intro succeeds
    have accepts : sequence.Accepts batch := by
      rw [result_apply] at succeeds
      cases staging : sequence.stage batch with
      | error error =>
        rw [staging] at succeeds
        cases succeeds
      | ok staged => exact accepts_of_stage staging
    rw [applied accepts] at succeeds
    exact ⟨accepts, (Except.ok.inj succeeds).symm⟩
  · rintro ⟨accepts, rfl⟩
    exact applied accepts

theorem exists_stage_of_accepts (accepts : sequence.Accepts batch) :
    ∃ staged, sequence.stage batch = .ok staged := by
  have applied := apply_eq_ok_iff.mpr ⟨accepts, rfl⟩
  rw [result_apply] at applied
  cases staging : sequence.stage batch with
  | error error =>
    rw [staging] at applied
    cases applied
  | ok staged => exact ⟨staged, rfl⟩

theorem edits_and_commit_of_stage (succeeds : sequence.stage batch = .ok staged) :
    staged.edits = batch.length ∧ sequence.commit staged = sequence.rewritten batch := by
  have applied := apply_eq_ok_iff.mpr ⟨accepts_of_stage succeeds, rfl⟩
  rw [result_apply, succeeds] at applied
  exact Prod.mk.inj (Except.ok.inj applied)

end Sequence

end TokenQuery
