import Mathlib.Data.List.Basic
import TokenQuery.Proofs.Edit.Staging

/-!
Committing a staged batch. Main statements: a commit of what reflects a batch rewrites the sequence
as the batch says (`commit_of_reflects`), a batch without a refusal is applied
(`apply_of_accepted`), and a token that is left moves down by the number of removed indexes below
its own (`getElem?_rewritten`).
-/

set_option autoImplicit false

namespace TokenQuery.Sequence

section Overwriting

variable {tokens : List Token} {changed : List (Nat × Token)}

private theorem getElem?_overwriteAll (nodup : (changed.map (·.1)).Nodup) (index : Nat) :
    (overwriteAll tokens changed)[index]? =
      tokens[index]?.map fun token => (changed.lookup index).getD token := by
  induction changed generalizing tokens with
  | nil => simp [overwriteAll]
  | cons entry rest ih =>
    obtain ⟨key, value⟩ := entry
    obtain ⟨fresh, nodup⟩ := List.nodup_cons.mp nodup
    have step : overwriteAll tokens ((key, value) :: rest) =
        overwriteAll (tokens.set key value) rest := rfl
    rw [step, ih nodup, List.getElem?_set, List.lookup_cons]
    by_cases same : key = index
    · subst same
      have absent : rest.lookup key = none := by
        refine List.lookup_eq_none_iff.mpr ?_
        intro entry member
        have other : entry.1 ∈ rest.map (·.1) := List.mem_map_of_mem member
        simpa using fun equal : key = entry.1 => fresh (equal ▸ other)
      by_cases inside : key < tokens.length
      · simp [inside, absent]
      · simp [inside]
    · have differs : (index == key) = false := by simpa using Ne.symm same
      simp [same, differs]

end Overwriting

section Erasing

variable {tokens : List Token} {removed : List Nat} {start : Nat}

private theorem filterMap_of_below (below : ∀ index ∈ removed, index < start) :
    (tokens.zipIdx start).filterMap
      (fun (token, index) => if index ∈ removed then none else some token) = tokens := by
  have stays : (tokens.zipIdx start).filterMap
      (fun (token, index) => if index ∈ removed then none else some token) =
        (tokens.zipIdx start).filterMap (some ∘ Prod.fst) := by
    refine List.filterMap_congr ?_
    rintro ⟨token, index⟩ member
    have reached := List.le_snd_of_mem_zipIdx member
    refine if_neg fun gone => ?_
    exact absurd (below index gone) (Nat.not_lt.mpr reached)
  rw [stays, List.filterMap_eq_map, List.zipIdx_map_fst]

private theorem filterMap_cons_of_above {index : Nat} (above : tokens.length ≤ index) :
    tokens.zipIdx.filterMap
        (fun (token, i) => if i ∈ index :: removed then none else some token) =
      tokens.zipIdx.filterMap (fun (token, i) => if i ∈ removed then none else some token) := by
  refine List.filterMap_congr ?_
  rintro ⟨token, i⟩ member
  have bound := List.snd_lt_of_mem_zipIdx member
  have other : i ≠ index := by
    rw [Nat.add_zero] at bound
    exact Nat.ne_of_lt (Nat.lt_of_lt_of_le bound above)
  simp [other]

/-- Removals in descending order leave out the tokens at the removed indexes, since each of them
leaves the tokens below it where they are. -/
private theorem eraseAll_of_descending (descending : removed.Pairwise (· > ·)) :
    eraseAll tokens removed =
      tokens.zipIdx.filterMap fun (token, index) =>
        if index ∈ removed then none else some token := by
  induction removed generalizing tokens with
  | nil =>
    rw [filterMap_of_below (by simp)]
    rfl
  | cons index rest ih =>
    obtain ⟨below, tail⟩ := List.pairwise_cons.mp descending
    have step : eraseAll tokens (index :: rest) = eraseAll (tokens.eraseIdx index) rest := rfl
    rw [step, ih tail]
    rcases Nat.lt_or_ge index tokens.length with inside | beyond
    · have split : tokens = tokens.take index ++ tokens[index] :: tokens.drop (index + 1) := by
        rw [← List.drop_eq_getElem_cons inside, List.take_append_drop]
      have length : (tokens.take index).length = index := by
        rw [List.length_take, Nat.min_eq_left (Nat.le_of_lt inside)]
      have belowNext : ∀ i ∈ index :: rest, i < index + 1 := by
        intro i member
        rcases List.mem_cons.mp member with rfl | member
        · exact Nat.lt_succ_self _
        · exact Nat.lt_succ_of_lt (below i member)
      rw [List.eraseIdx_eq_take_drop_succ, List.zipIdx_append, List.filterMap_append, length,
        Nat.zero_add, filterMap_of_below below]
      conv =>
        rhs
        rw [split, List.zipIdx_append, List.filterMap_append, length, Nat.zero_add,
          List.zipIdx_cons, List.filterMap_cons_none (by simp), filterMap_of_below belowNext]
      rw [filterMap_cons_of_above (Nat.le_of_eq length)]
    · rw [List.eraseIdx_of_length_le beyond, filterMap_cons_of_above beyond]

end Erasing

variable {sequence : Sequence} {batch : List Edit} {staged : Staged}

theorem zipIdx_mapIdx (change : Nat → Token → Token) (tokens : List Token) :
    (tokens.mapIdx change).zipIdx =
      tokens.zipIdx.map fun (token, index) => (change index token, index) := by
  apply List.ext_getElem?
  intro index
  simp only [List.getElem?_zipIdx, List.getElem?_mapIdx, List.getElem?_map, Option.map_map,
    Nat.zero_add]
  rfl

/-- A commit of a staged batch does what the batch means. -/
theorem commit_of_reflects (reflects : staged.Reflects sequence batch) :
    sequence.commit staged = sequence.rewritten batch := by
  have overwritten : overwriteAll sequence.tokens staged.changed =
      sequence.tokens.mapIdx fun index token =>
        Batch.tokenAfter batch ⟨sequence.name, index⟩ token := by
    apply List.ext_getElem?
    intro index
    rw [getElem?_overwriteAll reflects.nodup_changed, List.getElem?_mapIdx]
    cases found : sequence.tokens[index]? with
    | none => rfl
    | some token =>
      rw [Option.map_some, Option.map_some, reflects.token_eq index token found]
  unfold commit rewritten
  rw [overwritten, eraseAll_of_descending reflects.descending, zipIdx_mapIdx, List.filterMap_map]
  congr 1
  refine List.filterMap_congr ?_
  rintro ⟨token, index⟩ _
  simp [Batch.survivor?, reflects.mem_removed_iff]

theorem rewritten_of_ownEdits_eq_nil (none_own : sequence.ownEdits batch = []) :
    sequence.rewritten batch = sequence := by
  have elsewhere (index : Nat) : ∀ edit ∈ batch, edit.location ≠ ⟨sequence.name, index⟩ := by
    intro edit member here
    refine List.filter_eq_nil_iff.mp none_own edit member ?_
    rw [here]
    exact decide_eq_true rfl
  have stay : (sequence.rewritten batch).tokens =
      sequence.tokens.zipIdx.filterMap (some ∘ Prod.fst) := by
    refine List.filterMap_congr ?_
    rintro ⟨token, index⟩ _
    exact Batch.survivor?_of_elsewhere (elsewhere index)
  rw [List.filterMap_eq_map, List.zipIdx_map_fst] at stay
  exact congrArg (Sequence.mk sequence.name) stay

/-- A batch of a sequence without a refusal is applied, and every edit counts. -/
theorem apply_of_accepted (own : ∀ edit ∈ batch, edit.location.source = sequence.name)
    (accepted : sequence.firstRefusal? [] batch = none) :
    (sequence.apply batch).result = .ok (batch.length, sequence.rewritten batch) := by
  obtain ⟨staged, succeeds, reflects⟩ := exists_stage_of_accepted accepted
  rw [ownEdits_of_own own] at succeeds
  have count : staged.edits = batch.length := by
    rw [reflects.edits_eq, List.countP_eq_length]
    exact fun edit member => decide_eq_true (own edit member)
  have lifted : (liftM (sequence.stage batch) : Traced Staged).result = .ok staged := succeeds
  refine (Traced.result_bind_of_ok lifted).trans ?_
  rw [← count, ← commit_of_reflects reflects]
  rfl

/-- The number of distinct indexes below an index at which a batch removes tokens. -/
def removedBelow (sequence : Sequence) (batch : List Edit) (index : Nat) : Nat :=
  ((List.range index).filter fun i => Batch.removes batch ⟨sequence.name, i⟩).length

private theorem length_survivors_add_removedBelow (sequence : Sequence) (batch : List Edit)
    {index : Nat} (bound : index ≤ sequence.tokens.length) :
    ((sequence.tokens.zipIdx.take index).filterMap fun (token, i) =>
        Batch.survivor? batch ⟨sequence.name, i⟩ token).length +
      sequence.removedBelow batch index = index := by
  induction index with
  | zero => rfl
  | succ index ih =>
    have inside : index < sequence.tokens.length := bound
    have here : sequence.tokens.zipIdx[index]? = some (sequence.tokens[index], index) := by
      simp [inside]
    have before := ih (Nat.le_of_lt inside)
    unfold removedBelow at before ⊢
    rw [List.take_add_one, here, Option.toList_some, List.filterMap_append, List.range_succ,
      List.filter_append, List.length_append, List.length_append]
    by_cases gone : Batch.removes batch ⟨sequence.name, index⟩ = true
    · simp only [List.filterMap_cons, Batch.survivor?_of_removes gone, List.filterMap_nil,
        List.filter_cons, gone, if_true, List.filter_nil, List.length_nil, List.length_singleton]
        at before ⊢
      omega
    · simp only [List.filterMap_cons, Batch.survivor?_of_not_removes gone, List.filterMap_nil,
        List.filter_cons, gone, Bool.false_eq_true, if_false, List.filter_nil, List.length_nil,
        List.length_singleton] at before ⊢
      omega

/-- A token that is left stands as far down as indexes below its own are removed. -/
theorem getElem?_rewritten {index : Nat} {token : Token}
    (found : sequence.tokens[index]? = some token)
    (stays : Batch.removes batch ⟨sequence.name, index⟩ = false) :
    (sequence.rewritten batch).tokens[index - sequence.removedBelow batch index]? =
      some (Batch.tokenAfter batch ⟨sequence.name, index⟩ token) := by
  obtain ⟨inside, here⟩ := List.getElem?_eq_some_iff.mp found
  have below := length_survivors_add_removedBelow sequence batch (Nat.le_of_lt inside)
  have position : index - sequence.removedBelow batch index =
      ((sequence.tokens.zipIdx.take index).filterMap fun (token, i) =>
        Batch.survivor? batch ⟨sequence.name, i⟩ token).length := by omega
  have split : sequence.tokens.zipIdx =
      sequence.tokens.zipIdx.take index ++
        (token, index) :: sequence.tokens.zipIdx.drop (index + 1) := by
    have bound : index < sequence.tokens.zipIdx.length := by simpa using inside
    have entry : sequence.tokens.zipIdx[index] = (token, index) := by simp [here]
    rw [← entry, ← List.drop_eq_getElem_cons, List.take_append_drop]
  rw [position]
  unfold rewritten
  dsimp only
  conv =>
    lhs
    arg 1
    rw [split, List.filterMap_append]
  rw [List.getElem?_append_right (Nat.le_refl _), Nat.sub_self]
  simp [Batch.survivor?_of_not_removes, stays]

end TokenQuery.Sequence
