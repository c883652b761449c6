import Mathlib.Data.List.Forall2
import TokenQuery.Proofs.Dataset.Index
import TokenQuery.Proofs.Edit.Commit

/-!
Batches across the sources of a dataset. Main statement: a batch fails with its first error, and
without an error it rewrites every source and counts every edit (`Indexed.apply_result`).
-/

set_option autoImplicit false

namespace TokenQuery

/-- A plan for sources under a batch. A source with edits of its own comes with what reflects them,
and a source without is left out. -/
inductive Planned (batch : List Edit) : List Source → List (Source × Staged) → Prop
  | nil : Planned batch [] []
  | skip {source : Source} {sources : List Source} {plan : List (Source × Staged)} :
      source.sequence.ownEdits batch = [] → Planned batch sources plan →
      Planned batch (source :: sources) plan
  | stage {source : Source} {staged : Staged} {sources : List Source}
      {plan : List (Source × Staged)} :
      staged.Reflects source.sequence batch → Planned batch sources plan →
      Planned batch (source :: sources) ((source, staged) :: plan)

/-- Writing this part of a plan changes nothing but the sequence of its source, which `revise` says
the new state of. -/
def Source.Rewrites (write : List Sequence → Source × Staged → List Sequence)
    (revise : Source → Sequence) (source : Source) (part : List (Source × Staged)) : Prop :=
  ∀ sequences : List Sequence, sequences[source.position]? = some source.sequence →
    part.foldl write sequences = sequences.set source.position (revise source)

theorem Source.foldl_rewrites {write : List Sequence → Source × Staged → List Sequence}
    {revise : Source → Sequence} {store : Nat} {parts : List (List (Source × Staged))}
    (before sequences : List Sequence)
    (rewrites : List.Forall₂ (Rewrites write revise)
      ((sequences.zipIdx before.length).map fun (sequence, position) => ⟨store, position, sequence⟩)
      parts) :
    parts.flatten.foldl write (before ++ sequences) =
      before ++ ((sequences.zipIdx before.length).map fun (sequence, position) =>
        (⟨store, position, sequence⟩ : Source)).map revise := by
  -- The induction is on the sequences, and those before the offset are done.
  induction sequences generalizing before parts with
  | nil =>
    cases rewrites
    rfl
  | cons sequence rest ih =>
    rw [List.zipIdx_cons, List.map_cons] at rewrites
    cases rewrites with
    | cons here later =>
      have there : (before ++ sequence :: rest)[before.length]? = some sequence := by
        rw [List.getElem?_append_right (Nat.le_refl _), Nat.sub_self, List.getElem?_cons_zero]
      have length (next : Sequence) : (before ++ [next]).length = before.length + 1 := by simp
      rw [List.flatten_cons, List.foldl_append, here _ there,
        List.set_append_right _ _ (Nat.le_refl _), Nat.sub_self, List.set_cons_zero,
        List.append_cons, ih _ (length _ ▸ later), length, List.append_assoc, List.zipIdx_cons]
      rfl

namespace Batch

variable {batch : List Edit}

private theorem flatMap_filter_perm {names : List String} (nodup : names.Nodup)
    (known : ∀ edit ∈ batch, edit.location.source ∈ names) :
    (names.flatMap fun name => batch.filter fun edit => edit.location.source = name).Perm
      batch := by
  -- The induction is on the names, and the edits with the first of them leave the batch.
  induction names generalizing batch with
  | nil =>
    have empty : batch = [] := by
      refine List.eq_nil_iff_forall_not_mem.mpr ?_
      intro edit member
      exact List.not_mem_nil (known edit member)
    rw [empty]
    exact .nil
  | cons name rest ih =>
    obtain ⟨fresh, nodup⟩ := List.nodup_cons.mp nodup
    let others := batch.filter fun edit => !decide (edit.location.source = name)
    have without :
        (rest.flatMap fun other => batch.filter fun edit => edit.location.source = other) =
          rest.flatMap fun other => others.filter fun edit => edit.location.source = other := by
      refine List.flatMap_congr ?_
      intro other member
      have differs : other ≠ name := fun same => fresh (same ▸ member)
      rw [List.filter_filter]
      refine List.filter_congr ?_
      intro edit _
      by_cases here : edit.location.source = other
      · simp [here, differs]
      · simp [here]
    have knownOthers : ∀ edit ∈ others, edit.location.source ∈ rest := by
      intro edit member
      obtain ⟨inBatch, elsewhere⟩ := List.mem_filter.mp member
      rcases List.mem_cons.mp (known edit inBatch) with here | later
      · simp [here] at elsewhere
      · exact later
    rw [List.flatMap_cons, without]
    exact ((ih nodup knownOthers).append_left _).trans (List.filter_append_perm _ batch)

end Batch

namespace Planned

variable {batch : List Edit} {sources : List Source} {plan : List (Source × Staged)}

private theorem foldl_edits (planned : Planned batch sources plan) (total : Nat) :
    plan.foldl (fun total (_, staged) => total + staged.edits) total =
      total + (sources.flatMap fun source => source.sequence.ownEdits batch).length := by
  induction planned generalizing total with
  | nil => rfl
  | skip none_own _ ih => rw [ih, List.flatMap_cons, none_own, List.nil_append]
  | stage reflects _ ih =>
    rw [List.foldl_cons, ih, List.flatMap_cons, List.length_append]
    dsimp only
    rw [reflects.edits_eq, List.countP_eq_length_filter, Sequence.ownEdits, Nat.add_assoc]

/-- A plan falls into the parts of its sources, each of which is written as the batch means it. -/
private theorem exists_parts {write : List Sequence → Source × Staged → List Sequence}
    (writes : ∀ sequences source staged, sequences[source.position]? = some source.sequence →
      write sequences (source, staged) =
        sequences.set source.position (source.sequence.commit staged))
    (planned : Planned batch sources plan) :
    ∃ parts, plan = parts.flatten ∧
      List.Forall₂ (Source.Rewrites write fun source => source.sequence.rewritten batch)
        sources parts := by
  induction planned with
  | nil => exact ⟨[], rfl, .nil⟩
  | @skip source sources plan none_own _ ih =>
    obtain ⟨parts, rfl, rewrites⟩ := ih
    refine ⟨[] :: parts, rfl, .cons (fun sequences there => ?_) rewrites⟩
    obtain ⟨inside, here⟩ := List.getElem?_eq_some_iff.mp there
    dsimp only
    rw [Sequence.rewritten_of_ownEdits_eq_nil none_own, ← here, List.set_getElem_self]
    rfl
  | @stage source staged sources plan reflects _ ih =>
    obtain ⟨parts, rfl, rewrites⟩ := ih
    refine ⟨[(source, staged)] :: parts, rfl, .cons (fun sequences there => ?_) rewrites⟩
    rw [List.foldl_cons, writes _ _ _ there, Sequence.commit_of_reflects reflects]
    rfl

end Planned

namespace Dataset

variable {dataset : Dataset} {sequence : Sequence} {source : Source} {batch : List Edit}
  {position : Nat} {error : EditError}

/-- An edit names a source that the dataset does not have. -/
def NamesNoSource (dataset : Dataset) (edit : Edit) : Prop :=
  ∀ sequence ∈ dataset.sequences, sequence.name ≠ edit.location.source

instance (edit : Edit) : Decidable (dataset.NamesNoSource edit) :=
  inferInstanceAs (Decidable (∀ sequence ∈ dataset.sequences, sequence.name ≠ edit.location.source))

/-- The first error of a batch: that of the first edit that names no source, and else the first
refusal within the first source that has one. -/
def firstError? (dataset : Dataset) (batch : List Edit) : Option EditError :=
  match batch.find? (dataset.NamesNoSource ·) with
  | some edit => some (.unknownSource edit.location.source)
  | none => dataset.sequences.findSome? (·.firstRefusal? [] batch)

/-- What is wrong with an edit after the edits before it in the batch: it names no source, or its
source refuses it. -/
def Rejects (dataset : Dataset) (earlier : List Edit) (edit : Edit) : Prop :=
  dataset.NamesNoSource edit ∨
    ∃ sequence ∈ dataset.sequences, ∃ error, sequence.Refuses earlier edit error

/-- The dataset with each of its sources after a batch. -/
def rewritten (dataset : Dataset) (batch : List Edit) : Dataset :=
  { dataset with sequences := dataset.sequences.map (·.rewritten batch) }

theorem find?_of_firstError?_eq_none (accepted : dataset.firstError? batch = none) :
    batch.find? (dataset.NamesNoSource ·) = none := by
  unfold firstError? at accepted
  split at accepted
  · cases accepted
  · assumption

theorem firstError?_eq_none_iff :
    dataset.firstError? batch = none ↔
      ∀ earlier edit later, batch = earlier ++ edit :: later → ¬ dataset.Rejects earlier edit := by
  constructor
  · rintro accepted earlier edit later rfl (unnamed | ⟨sequence, member, error, refuses⟩)
    · have known := find?_of_firstError?_eq_none accepted
      exact List.find?_eq_none.mp known edit (by simp) (decide_eq_true unnamed)
    · rw [firstError?, find?_of_firstError?_eq_none accepted] at accepted
      have none_refused := List.findSome?_eq_none_iff.mp accepted sequence member
      have passes := Sequence.firstRefusal?_eq_none_iff.mp none_refused earlier edit later rfl
      rw [List.nil_append, Sequence.refusal?_eq_some_iff.mpr refuses] at passes
      cases passes
  · intro accepted
    unfold firstError?
    split
    · rename_i edit found
      obtain ⟨earlier, later, split⟩ := List.append_of_mem (List.mem_of_find?_eq_some found)
      have unnamed : dataset.NamesNoSource edit := by simpa using List.find?_some found
      exact absurd (.inl unnamed) (accepted earlier edit later split)
    · refine List.findSome?_eq_none_iff.mpr fun sequence member => ?_
      refine Sequence.firstRefusal?_eq_none_iff.mpr fun earlier edit later split => ?_
      cases refusal : sequence.refusal? ([] ++ earlier) edit with
      | none => rfl
      | some error =>
        have refuses := Sequence.refusal?_eq_some_iff.mp refusal
        exact absurd (.inr ⟨sequence, member, error, refuses⟩) (accepted earlier edit later split)

theorem exists_rejects_of_firstError? (first : dataset.firstError? batch = some error) :
    ∃ earlier edit later, batch = earlier ++ edit :: later ∧ dataset.Rejects earlier edit := by
  by_contra none_rejected
  have accepted : dataset.firstError? batch = none := by
    refine firstError?_eq_none_iff.mpr ?_
    intro earlier edit later split rejects
    exact none_rejected ⟨earlier, edit, later, split, rejects⟩
  rw [first] at accepted
  cases accepted

theorem firstError?_ne_foreign (location : Location) (name : String) :
    dataset.firstError? batch ≠ some (.foreign location name) := by
  intro first
  unfold firstError? at first
  split at first
  · cases first
  · obtain ⟨sequence, _, refused⟩ := List.exists_of_findSome?_eq_some first
    obtain ⟨_, _, _, _, _, refuses⟩ := Sequence.firstRefusal?_eq_some_iff.mp refused
    cases refuses

@[simp] theorem rewritten_names : (dataset.rewritten batch).names = dataset.names := by
  simp [names, rewritten]

theorem sources_eq :
    dataset.sources = dataset.sequences.zipIdx.map fun (sequence, position) =>
      ⟨dataset.store, position, sequence⟩ :=
  List.mapIdx_eq_zipIdx_map

private theorem sources_map_sequence : dataset.sources.map (·.sequence) = dataset.sequences := by
  simp [sources_eq, Function.comp_def]

theorem foldl_rewrites {write : List Sequence → Source × Staged → List Sequence}
    {revise : Source → Sequence} {parts : List (List (Source × Staged))}
    (rewrites : List.Forall₂ (Source.Rewrites write revise) dataset.sources parts) :
    parts.flatten.foldl write dataset.sequences = dataset.sources.map revise := by
  rw [sources_eq] at rewrites ⊢
  exact Source.foldl_rewrites [] dataset.sequences rewrites

theorem getElem?_of_mem_sources (member : source ∈ dataset.sources) :
    dataset.sequences[source.position]? = some source.sequence := by
  obtain ⟨position, inside, rfl⟩ := List.mem_mapIdx.mp member
  exact List.getElem?_eq_getElem inside

private theorem Indexed.checkSources_eq (indexed : dataset.Indexed) (batch : List Edit) :
    dataset.checkSources batch =
      match batch.find? (dataset.NamesNoSource ·) with
      | none => .ok ()
      | some edit => .error (.edit (.unknownSource edit.location.source)) := by
  have same : (fun edit : Edit => dataset.index[edit.location.source]?.isNone) =
      fun edit => decide (dataset.NamesNoSource edit) := by
    funext edit
    rw [Bool.eq_iff_iff, Option.isNone_iff_eq_none, decide_eq_true_iff]
    exact indexed.index_eq_none_iff
  exact congrArg (fun unknown : Edit → Bool =>
    match batch.find? unknown with
    | none => Except.ok ()
    | some edit => Except.error (QueryError.edit (.unknownSource edit.location.source))) same

private theorem Indexed.editsAt_eq (indexed : dataset.Indexed)
    (there : dataset.sequences[position]? = some sequence) :
    dataset.editsAt batch position = sequence.ownEdits batch := by
  refine List.filter_congr ?_
  intro edit _
  rw [Bool.eq_iff_iff, beq_iff_eq, indexed.index_eq_some_iff, names, List.getElem?_map, there,
    Option.map_some, Option.some_inj, decide_eq_true_iff, eq_comm]

private theorem Indexed.stageAt_of_refused (indexed : dataset.Indexed)
    (member : source ∈ dataset.sources)
    (first : source.sequence.firstRefusal? [] batch = some error) :
    dataset.stageAt batch source = .error (.edit error) := by
  have fails := Sequence.stage_of_firstRefusal first
  rw [stageAt, indexed.editsAt_eq (getElem?_of_mem_sources member)]
  cases own : source.sequence.ownEdits batch with
  | nil =>
    rw [own] at fails
    cases fails
  | cons edit rest =>
    rw [own] at fails
    simp only [fails]
    rfl

private theorem Indexed.stageAt_of_accepted (indexed : dataset.Indexed)
    (member : source ∈ dataset.sources)
    (accepted : source.sequence.firstRefusal? [] batch = none) :
    ∃ part, dataset.stageAt batch source = .ok part ∧
      ∀ sources plan, Planned batch sources plan →
        Planned batch (source :: sources) (part ++ plan) := by
  obtain ⟨staged, succeeds, reflects⟩ := Sequence.exists_stage_of_accepted accepted
  rw [stageAt, indexed.editsAt_eq (getElem?_of_mem_sources member)]
  cases own : source.sequence.ownEdits batch with
  | nil => exact ⟨[], rfl, fun _ _ planned => .skip own planned⟩
  | cons edit rest =>
    rw [own] at succeeds
    refine ⟨[(source, staged)], ?_, fun _ _ planned => .stage reflects planned⟩
    simp only [succeeds]
    rfl

private theorem Indexed.mapM_stageAt (indexed : dataset.Indexed) (batch : List Edit)
    {sources : List Source} (members : ∀ source ∈ sources, source ∈ dataset.sources) :
    (∀ error, sources.findSome? (·.sequence.firstRefusal? [] batch) = some error →
      sources.mapM (dataset.stageAt batch) = .error (.edit error)) ∧
    (sources.findSome? (·.sequence.firstRefusal? [] batch) = none →
      ∃ parts, sources.mapM (dataset.stageAt batch) = .ok parts ∧
        Planned batch sources parts.flatten) := by
  induction sources with
  | nil => exact ⟨by simp, fun _ => ⟨[], rfl, .nil⟩⟩
  | cons source rest ih =>
    obtain ⟨refused, accepted⟩ := ih fun source later => members source (.tail _ later)
    have member := members source (.head _)
    rw [List.findSome?_cons, List.mapM_cons]
    cases first : source.sequence.firstRefusal? [] batch with
    | some error =>
      rw [indexed.stageAt_of_refused member first]
      refine ⟨?_, by simp⟩
      rintro error here
      obtain rfl := Option.some.inj here
      rfl
    | none =>
      obtain ⟨part, staged, extend⟩ := indexed.stageAt_of_accepted member first
      rw [staged]
      constructor
      · intro error later
        simp only [refused error later]
        rfl
      · intro none_later
        obtain ⟨parts, rest_staged, planned⟩ := accepted none_later
        refine ⟨part :: parts, ?_, ?_⟩
        · simp only [rest_staged]
          rfl
        · rw [List.flatten_cons]
          exact extend rest parts.flatten planned

theorem Indexed.stage_of_firstError (indexed : dataset.Indexed)
    (first : dataset.firstError? batch = some error) :
    dataset.stage batch = .error (.edit error) := by
  unfold firstError? at first
  rw [stage, indexed.checkSources_eq]
  cases unknown : batch.find? (dataset.NamesNoSource ·) with
  | some edit =>
    rw [unknown] at first
    obtain rfl := Option.some.inj first
    rfl
  | none =>
    rw [unknown, ← sources_map_sequence, List.findSome?_map] at first
    have fails := (indexed.mapM_stageAt batch fun _ member => member).1 error first
    simp only [fails]
    rfl

theorem Indexed.exists_stage_of_accepted (indexed : dataset.Indexed)
    (accepted : dataset.firstError? batch = none) :
    ∃ plan, dataset.stage batch = .ok plan ∧ Planned batch dataset.sources plan := by
  unfold firstError? at accepted
  rw [stage, indexed.checkSources_eq]
  cases unknown : batch.find? (dataset.NamesNoSource ·) with
  | some edit =>
    rw [unknown] at accepted
    cases accepted
  | none =>
    rw [unknown, ← sources_map_sequence, List.findSome?_map] at accepted
    obtain ⟨parts, succeeds, planned⟩ :=
      (indexed.mapM_stageAt batch fun _ member => member).2 accepted
    refine ⟨parts.flatten, ?_, planned⟩
    simp only [succeeds]
    rfl

theorem Indexed.edits_of_planned (indexed : dataset.Indexed) {plan : List (Source × Staged)}
    (known : batch.find? (dataset.NamesNoSource ·) = none)
    (planned : Planned batch dataset.sources plan) :
    plan.foldl (fun total (_, staged) => total + staged.edits) 0 = batch.length := by
  have named : (dataset.sources.flatMap fun source => source.sequence.ownEdits batch) =
      dataset.names.flatMap fun name => batch.filter fun edit => edit.location.source = name := by
    rw [names, ← sources_map_sequence, List.map_map, List.flatMap_map]
    rfl
  have everyNamed : ∀ edit ∈ batch, edit.location.source ∈ dataset.names := by
    intro edit member
    have hasSource : ¬ dataset.NamesNoSource edit := by
      simpa using List.find?_eq_none.mp known edit member
    simpa [NamesNoSource, names] using hasSource
  rw [planned.foldl_edits, Nat.zero_add, named]
  exact (Batch.flatMap_filter_perm indexed.nodup_names everyNamed).length_eq

theorem foldl_writes_of_planned {write : List Sequence → Source × Staged → List Sequence}
    (writes : ∀ sequences source staged, sequences[source.position]? = some source.sequence →
      write sequences (source, staged) =
        sequences.set source.position (source.sequence.commit staged))
    {plan : List (Source × Staged)} (planned : Planned batch dataset.sources plan) :
    plan.foldl write dataset.sequences = dataset.sequences.map (·.rewritten batch) := by
  obtain ⟨parts, rfl, rewrites⟩ := planned.exists_parts writes
  rw [foldl_rewrites rewrites, ← sources_map_sequence, List.map_map]
  rfl

private theorem commit_of_planned {plan : List (Source × Staged)}
    (planned : Planned batch dataset.sources plan) :
    dataset.commit plan = dataset.rewritten batch := by
  rw [commit, foldl_writes_of_planned (fun _ _ _ _ => rfl) planned]
  rfl

/-- A batch fails with its first error. Without an error it rewrites every source, and its result
counts every edit. -/
theorem Indexed.apply_result (indexed : dataset.Indexed) (batch : List Edit) :
    (dataset.apply batch).result =
      match dataset.firstError? batch with
      | some error => .error (.edit error)
      | none => .ok (batch.length, dataset.rewritten batch) := by
  rw [apply]
  cases first : dataset.firstError? batch with
  | some error =>
    rw [Traced.result_bind]
    have fails := indexed.stage_of_firstError first
    rw [fails]
    rfl
  | none =>
    obtain ⟨plan, succeeds, planned⟩ := indexed.exists_stage_of_accepted first
    have counted := indexed.edits_of_planned (find?_of_firstError?_eq_none first) planned
    rw [succeeds, ← commit_of_planned planned, ← counted]
    rfl

end Dataset

end TokenQuery
