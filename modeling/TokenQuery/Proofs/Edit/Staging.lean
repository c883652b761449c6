import TokenQuery.Proofs.Edit.Batch

/-!
Staging a batch for a sequence. Main statement: staging the edits that a batch has for a sequence
fails with the refusal of the first of them that is refused, and else it gives a staged batch that
reflects them (`stage_of_firstRefusal`, `exists_stage_of_accepted`).
-/

set_option autoImplicit false

namespace TokenQuery

namespace Staged

variable {index other : Nat} {removed : List Nat}

@[simp] theorem mem_insertIndex :
    other ∈ insertIndex index removed ↔ other = index ∨ other ∈ removed := by
  induction removed with
  | nil => simp [insertIndex]
  | cons i rest ih =>
    unfold insertIndex
    split
    · simp
    · split
      · rename_i same
        subst same
        simp
      · rw [List.mem_cons, ih, List.mem_cons]
        constructor
        · rintro (h | h | h) <;> simp [h]
        · rintro (h | h | h) <;> simp [h]

private theorem pairwise_insertIndex (descending : removed.Pairwise (· > ·)) :
    (insertIndex index removed).Pairwise (· > ·) := by
  induction removed with
  | nil => exact List.pairwise_singleton _ _
  | cons i rest ih =>
    obtain ⟨below, tail⟩ := List.pairwise_cons.mp descending
    unfold insertIndex
    split
    · rename_i above
      refine List.pairwise_cons.mpr ⟨?_, descending⟩
      intro j member
      rcases List.mem_cons.mp member with rfl | member
      · exact above
      · exact Nat.lt_trans (below j member) above
    · split
      · exact descending
      · rename_i notAbove notSame
        refine List.pairwise_cons.mpr ⟨?_, ih tail⟩
        intro j member
        rcases mem_insertIndex.mp member with rfl | member
        · omega
        · exact below j member

/-- A staged batch holds what the edits of a batch mean for a sequence: the tokens as they change,
each index once, and the removed indexes in descending order. -/
structure Reflects (sequence : Sequence) (batch : List Edit) (staged : Staged) : Prop where
  nodup_changed : (staged.changed.map (·.1)).Nodup
  changed_lt : ∀ index ∈ staged.changed.map (·.1), index < sequence.size
  token_eq : ∀ index token, sequence.tokens[index]? = some token →
    (staged.changed.lookup index).getD token = Batch.tokenAfter batch ⟨sequence.name, index⟩ token
  descending : staged.removed.Pairwise (· > ·)
  removed_lt : ∀ index ∈ staged.removed, index < sequence.size
  mem_removed_iff : ∀ index,
    index ∈ staged.removed ↔ Batch.removes batch ⟨sequence.name, index⟩ = true
  edits_eq : staged.edits = batch.countP fun edit => edit.location.source = sequence.name

variable {sequence : Sequence} {earlier : List Edit} {staged : Staged} {edit : Edit}
  {error : EditError}

private theorem reflects_nil (sequence : Sequence) : ({} : Staged).Reflects sequence [] := by
  constructor <;> simp

theorem Reflects.skip (reflects : staged.Reflects sequence earlier)
    (foreign : edit.location.source ≠ sequence.name) :
    staged.Reflects sequence (earlier ++ [edit]) := by
  have elsewhere (index : Nat) : edit.location ≠ ⟨sequence.name, index⟩ := by
    intro same
    exact foreign (congrArg Location.source same)
  refine { reflects with token_eq := ?_, mem_removed_iff := ?_, edits_eq := ?_ }
  · intro index token found
    rw [Batch.tokenAfter_append_of_ne (elsewhere index)]
    exact reflects.token_eq index token found
  · intro index
    rw [reflects.mem_removed_iff, Batch.removes_append_singleton]
    simp [elsewhere index]
  · rw [reflects.edits_eq, List.countP_append]
    simp [foreign]

private theorem add_of_refused (reflects : staged.Reflects sequence earlier)
    (refused : sequence.refusal? earlier edit = some error) :
    add sequence staged edit = .error (.edit error) := by
  obtain ⟨own, missing⟩ | ⟨own, found, asks, beyond⟩ := Sequence.refusal?_eq_some_iff.mp refused
  · have none_there := List.getElem?_eq_none_iff.mpr missing
    simp only [add, own, ne_eq, not_true_eq_false, if_false, none_there]
  · rename_i token position
    obtain ⟨⟨source, index⟩, mutation⟩ := edit
    obtain rfl : source = sequence.name := own
    have seen := reflects.token_eq index token found
    have fails := Mutation.changeArgs_of_missing asks beyond
    simp only [add, ne_eq, not_true_eq_false, if_false, found, seen]
    simp only [Batch.tokenAfter, Token.withArgs, fails]

theorem Reflects.record {index : Nat} {original : Token}
    (reflects : staged.Reflects sequence earlier)
    (found : sequence.tokens[index]? = some original) (mutation : Mutation) :
    Reflects sequence (earlier ++ [⟨⟨sequence.name, index⟩, mutation⟩])
      { changed := Entries.set index
          (Batch.tokenAfter (earlier ++ [⟨⟨sequence.name, index⟩, mutation⟩]) ⟨sequence.name, index⟩
            original) staged.changed
        removed :=
          if mutation = .remove then insertIndex index staged.removed else staged.removed
        edits := staged.edits + 1 } := by
  have inside : index < sequence.size := (List.getElem?_eq_some_iff.mp found).1
  constructor
  · exact Entries.nodup_map_fst_update reflects.nodup_changed _ _
  · intro other member
    rcases Entries.mem_map_fst_update.mp member with rfl | member
    · exact inside
    · exact reflects.changed_lt other member
  · intro other token there
    by_cases same : other = index
    · subst same
      obtain rfl : original = token := Option.some.inj (found.symm.trans there)
      rw [Entries.lookup_set_self, Option.getD_some]
    · rw [Entries.lookup_set_of_ne same, reflects.token_eq other token there,
        Batch.tokenAfter_append_of_ne (by simpa using Ne.symm same)]
  · dsimp only
    split
    · exact pairwise_insertIndex reflects.descending
    · exact reflects.descending
  · intro other member
    dsimp only at member
    split at member
    · rcases mem_insertIndex.mp member with rfl | member
      · exact inside
      · exact reflects.removed_lt other member
    · exact reflects.removed_lt other member
  · intro other
    rw [Batch.removes_append_singleton, ← reflects.mem_removed_iff]
    dsimp only
    split
    · rename_i removing
      rw [mem_insertIndex, or_comm]
      simp [removing, eq_comm]
    · rename_i keeping
      simp [keeping]
  · rw [List.countP_append, reflects.edits_eq]
    simp

private theorem exists_add_of_accepted (reflects : staged.Reflects sequence earlier)
    (own : edit.location.source = sequence.name)
    (accepted : sequence.refusal? earlier edit = none) :
    ∃ next, add sequence staged edit = .ok next ∧ next.Reflects sequence (earlier ++ [edit]) := by
  obtain ⟨⟨source, index⟩, mutation⟩ := edit
  obtain rfl : source = sequence.name := own
  have never (error : EditError) :
      ¬ sequence.Refuses earlier ⟨⟨sequence.name, index⟩, mutation⟩ error := by
    intro refuses
    rw [Sequence.refusal?_eq_some_iff.mpr refuses] at accepted
    cases accepted
  have inside : index < sequence.tokens.length := by
    rcases Nat.lt_or_ge index sequence.tokens.length with inside | beyond
    · exact inside
    · exact absurd (.noToken rfl beyond) (never _)
  obtain ⟨original, found⟩ : ∃ original, sequence.tokens[index]? = some original :=
    ⟨_, List.getElem?_eq_getElem inside⟩
  have seen := reflects.token_eq index original found
  have succeeds :
      mutation.changeArgs (Batch.tokenAfter earlier ⟨sequence.name, index⟩ original).args =
        .ok (mutation.effect (Batch.tokenAfter earlier ⟨sequence.name, index⟩ original).args) := by
    refine Mutation.changeArgs_of_present ?_
    intro position asks
    rcases Nat.lt_or_ge position
      (Batch.tokenAfter earlier ⟨sequence.name, index⟩ original).args.length with present | beyond
    · exact present
    · exact absurd (.noArgument rfl found asks beyond) (never _)
  refine ⟨_, ?_, reflects.record found mutation⟩
  simp only [add, ne_eq, not_true_eq_false, if_false, found, seen, succeeds,
    Batch.tokenAfter_append_of_eq]

end Staged

namespace Sequence

variable {sequence : Sequence} {earlier batch : List Edit} {staged : Staged} {error : EditError}

/-- The edits of a batch for a sequence, in the order of the batch. -/
def ownEdits (sequence : Sequence) (batch : List Edit) : List Edit :=
  batch.filter fun edit => edit.location.source = sequence.name

theorem ownEdits_of_own (own : ∀ edit ∈ batch, edit.location.source = sequence.name) :
    sequence.ownEdits batch = batch :=
  List.filter_eq_self.mpr fun edit member => decide_eq_true (own edit member)

private theorem stage_from (reflects : staged.Reflects sequence earlier) (batch : List Edit) :
    (∀ error, sequence.firstRefusal? earlier batch = some error →
      (sequence.ownEdits batch).foldlM (Staged.add sequence) staged = .error (.edit error)) ∧
    (sequence.firstRefusal? earlier batch = none →
      ∃ next, (sequence.ownEdits batch).foldlM (Staged.add sequence) staged = .ok next ∧
        next.Reflects sequence (earlier ++ batch)) := by
  induction batch generalizing earlier staged with
  | nil =>
    refine ⟨by simp [firstRefusal?], fun _ => ⟨staged, rfl, ?_⟩⟩
    rw [List.append_nil]
    exact reflects
  | cons edit rest ih =>
    rw [firstRefusal?, List.append_cons earlier edit rest]
    by_cases own : edit.location.source = sequence.name
    · have next : sequence.ownEdits (edit :: rest) = edit :: sequence.ownEdits rest := by
        simp [ownEdits, own]
      rw [next, List.foldlM_cons]
      cases refusal : sequence.refusal? earlier edit with
      | some refused =>
        rw [Staged.add_of_refused reflects refusal]
        refine ⟨?_, by simp⟩
        rintro error first
        obtain rfl := Option.some.inj first
        rfl
      | none =>
        obtain ⟨staged', added, reflects'⟩ := Staged.exists_add_of_accepted reflects own refusal
        rw [added, Option.none_or]
        exact ih reflects'
    · have skipped : sequence.ownEdits (edit :: rest) = sequence.ownEdits rest := by
        simp [ownEdits, own]
      rw [skipped, refusal?_of_ne own, Option.none_or]
      exact ih (reflects.skip own)

theorem stage_of_firstRefusal (first : sequence.firstRefusal? [] batch = some error) :
    sequence.stage (sequence.ownEdits batch) = .error (.edit error) :=
  (stage_from (Staged.reflects_nil sequence) batch).1 error first

theorem exists_stage_of_accepted (accepted : sequence.firstRefusal? [] batch = none) :
    ∃ staged, sequence.stage (sequence.ownEdits batch) = .ok staged ∧
      staged.Reflects sequence batch :=
  (stage_from (Staged.reflects_nil sequence) batch).2 accepted

end Sequence

end TokenQuery
