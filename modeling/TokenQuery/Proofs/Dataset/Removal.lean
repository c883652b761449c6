import Mathlib.Data.List.Nodup
import TokenQuery.Proofs.Dataset.Lookup
import TokenQuery.Proofs.Scan.Answers
import TokenQuery.Proofs.Traversal.Full

/-!
Removing what a question finds. Main statement: the removals of all matches of a specification in
a pass over a dataset take exactly the slots of the matches out of it, and after a pass over the
whole dataset the specification has no match left (`apply_removes_found`).
-/

set_option autoImplicit false

namespace TokenQuery

namespace Batch

variable {found : List Handle} {location : Location} {token : Token}

private theorem survivor?_removals :
    survivor? (found.map (·.edit .remove)) location token =
      if found.any (·.location = location) then none else some token := by
  by_cases named : ∃ handle ∈ found, handle.location = location
  · obtain ⟨handle, member, rfl⟩ := named
    have removed : removes (found.map (·.edit .remove)) handle.location = true := by
      rw [removes, List.contains_iff_mem, mutationsAt, List.mem_map]
      refine ⟨handle.edit .remove, List.mem_filter.mpr ⟨List.mem_map_of_mem member, ?_⟩, rfl⟩
      exact decide_eq_true rfl
    rw [survivor?_of_removes removed, if_pos]
    exact List.any_eq_true.mpr ⟨handle, member, decide_eq_true rfl⟩
  · have elsewhere : ∀ edit ∈ found.map (·.edit .remove), edit.location ≠ location := by
      simpa [Handle.edit] using named
    rw [survivor?_of_elsewhere elsewhere, if_neg]
    simpa using named

end Batch

private theorem Handle.not_refuses_remove (handle : Handle) {earlier : List Edit}
    {error : EditError} :
    ¬ handle.source.sequence.Refuses earlier (handle.edit .remove) error := by
  rintro (⟨_, beyond⟩ | ⟨_, _, asks, _⟩)
  · exact absurd handle.index_lt (Nat.not_lt.mpr beyond)
  · cases asks

/-- What a handle points at apart from the index: the place and the name of its source, and the
token. -/
structure Handle.Content where
  store : Nat
  position : Nat
  name : String
  token : Token
  deriving DecidableEq

/-- The content of a handle. -/
def Handle.content (handle : Handle) : Handle.Content :=
  ⟨handle.source.store, handle.source.position, handle.source.sequence.name, handle.token⟩

/-- The second tokens are what is left of the first ones when some of them are removed: the others,
unchanged, in their sources and in their order. -/
structure Handle.Removed (found before remaining : List Handle) : Prop where
  nodup : found.Nodup
  within : found ⊆ before
  content : remaining.map Handle.content =
    (before.filter fun handle => !found.any handle.sameSlot).map Handle.content

namespace Source

variable {source : Source}

/-- The source after a batch, at its place. -/
def rewritten (source : Source) (batch : List Edit) : Source :=
  { source with sequence := source.sequence.rewritten batch }

private theorem map_entry_handles (source : Source) :
    (source.handles.map fun handle => (handle.token, handle.index)) =
      source.sequence.tokens.zipIdx := by
  apply List.ext_getElem?
  intro index
  rw [List.getElem?_map, getElem?_handles, List.getElem?_zipIdx, Nat.zero_add, at?]
  split
  · rename_i inside
    rw [List.getElem?_eq_getElem inside]
    rfl
  · rename_i beyond
    rw [List.getElem?_eq_none (Nat.le_of_not_lt beyond)]
    rfl

theorem map_token_handles (source : Source) :
    source.handles.map Handle.token = source.sequence.tokens := by
  rw [← List.zipIdx_map_fst 0 source.sequence.tokens, ← map_entry_handles, List.map_map]
  rfl

private theorem map_content_of_subset {handles : List Handle} (own : handles ⊆ source.handles) :
    handles.map Handle.content =
      (handles.map Handle.token).map
        (Handle.Content.mk source.store source.position source.sequence.name) := by
  rw [List.map_map]
  refine List.map_congr_left ?_
  intro handle member
  obtain rfl := mem_handles_iff.mp (own member)
  rfl

theorem map_token_handles_rewritten (source : Source) (found : List Handle) :
    (source.rewritten (found.map (·.edit .remove))).handles.map Handle.token =
      (source.handles.filter fun handle =>
        !found.any (·.location = handle.location)).map Handle.token := by
  have stays : ∀ handle ∈ source.handles,
      Batch.survivor? (found.map (·.edit .remove)) ⟨source.sequence.name, handle.index⟩
          handle.token =
        if !found.any (·.location = handle.location) then some handle.token else none := by
    intro handle member
    obtain rfl := mem_handles_iff.mp member
    have here : (⟨handle.source.sequence.name, handle.index⟩ : Location) = handle.location := rfl
    rw [Batch.survivor?_removals, here]
    cases found.any (·.location = handle.location) <;> rfl
  rw [map_token_handles, rewritten, Sequence.rewritten, ← map_entry_handles, List.filterMap_map]
  refine (List.filterMap_congr stays).trans ?_
  rw [← List.filterMap_filter, List.filterMap_eq_map']

private theorem map_content_handles_rewritten (source : Source) (found : List Handle) :
    (source.rewritten (found.map (·.edit .remove))).handles.map Handle.content =
      (source.handles.filter fun handle =>
        !found.any (·.location = handle.location)).map Handle.content := by
  rw [map_content_of_subset (List.Subset.refl _), map_token_handles_rewritten,
    map_content_of_subset (List.filter_subset_self _)]
  rfl

theorem apply_removals {found : List Handle} (own : found ⊆ source.handles) :
    (source.sequence.apply (found.map (·.edit .remove))).result =
      .ok (found.length, source.sequence.rewritten (found.map (·.edit .remove))) := by
  have removal : ∀ edit ∈ found.map (·.edit .remove),
      ∃ handle : Handle, handle.source = source ∧ handle.edit .remove = edit := by
    intro edit listed
    obtain ⟨handle, member, rfl⟩ := List.mem_map.mp listed
    exact ⟨handle, mem_handles_iff.mp (own member), rfl⟩
  rw [Sequence.apply_of_accepted, List.length_map]
  · intro edit listed
    obtain ⟨handle, rfl, rfl⟩ := removal edit listed
    rfl
  · refine Sequence.firstRefusal?_eq_none_iff.mpr ?_
    intro between edit later split
    obtain ⟨handle, rfl, rfl⟩ := removal edit (by rw [split]; simp)
    refine Option.eq_none_iff_forall_ne_some.mpr ?_
    intro error refused
    exact handle.not_refuses_remove (Sequence.refusal?_eq_some_iff.mp refused)

end Source

namespace Dataset

variable {dataset after : Dataset} {batch : List Edit} {found : List Handle} {handle other : Handle}
  {sequence named : Sequence} {position : Nat} {spec : Spec} {target : Matcher}
  {traversal : Traversal}

theorem mem_handles_iff : handle ∈ dataset.handles ↔ handle.source ∈ dataset.sources := by
  simp only [handles, List.mem_flatMap, Source.mem_handles_iff]
  constructor
  · rintro ⟨_, member, rfl⟩
    exact member
  · intro member
    exact ⟨_, member, rfl⟩

private theorem nodup_sources (dataset : Dataset) : dataset.sources.Nodup := by
  have positions : dataset.sources.map (·.position) = dataset.sequences.zipIdx.map Prod.snd := by
    rw [sources_eq, List.map_map]
    rfl
  have distinct : (dataset.sources.map (·.position)).Nodup := by
    rw [positions, List.zipIdx_map_snd]
    exact List.nodup_range'
  exact List.Nodup.of_map _ distinct

theorem nodup_handles (dataset : Dataset) : dataset.handles.Nodup := by
  rw [List.nodup_iff_count_le_one]
  intro handle
  rw [handles, Source.count_flatMap_handles]
  exact List.nodup_iff_count_le_one.mp dataset.nodup_sources _

private theorem exists_perm_handles (dataset : Dataset) (traversal : Traversal) :
    ∃ whole, whole.Perm dataset.handles ∧
      Scannable.tokens dataset traversal = traversal.limited whole := by
  refine ⟨_, ?_, dataset.tokens_eq traversal⟩
  split
  · exact List.reverse_perm _
  · exact List.Perm.refl _

private theorem sources_rewritten :
    (dataset.rewritten batch).sources = dataset.sources.map (·.rewritten batch) := by
  apply List.ext_getElem?
  intro position
  simp only [sources, rewritten, List.getElem?_mapIdx, List.getElem?_map, Option.map_map]
  rfl

theorem Indexed.location_eq_iff (indexed : dataset.Indexed) (member : handle ∈ dataset.handles)
    (member' : other ∈ dataset.handles) :
    handle.location = other.location ↔ handle.sameSlot other = true := by
  rw [mem_handles_iff] at member member'
  simp only [Handle.location, Location.mk.injEq, Handle.sameSlot, Bool.and_eq_true, beq_iff_eq]
  constructor
  · rintro ⟨name, index⟩
    have found := indexed.source?_eq_some_iff.mpr ⟨member, name⟩
    rw [indexed.source?_eq_some_iff.mpr ⟨member', rfl⟩] at found
    rw [Option.some.inj found]
    exact ⟨⟨rfl, rfl⟩, index⟩
  · rintro ⟨⟨_, position⟩, index⟩
    have there := getElem?_of_mem_sources member
    rw [position, getElem?_of_mem_sources member'] at there
    exact ⟨congrArg Sequence.name (Option.some.inj there).symm, index⟩

private theorem Indexed.eq_of_name_eq (indexed : dataset.Indexed)
    (there : dataset.sequences[position]? = some sequence) (listed : named ∈ dataset.sequences)
    (same : sequence.name = named.name) : named = sequence := by
  obtain ⟨position', found⟩ := List.mem_iff_getElem?.mp listed
  have here := indexed.index_eq found
  rw [← same, indexed.index_eq there] at here
  obtain rfl := Option.some.inj here
  exact Option.some.inj (found.symm.trans there)

private theorem Indexed.firstError?_removals (indexed : dataset.Indexed)
    (own : found ⊆ dataset.handles) :
    dataset.firstError? (found.map (·.edit .remove)) = none := by
  refine firstError?_eq_none_iff.mpr ?_
  intro earlier edit later split rejects
  have listed : edit ∈ found.map (·.edit .remove) := by
    rw [split]
    simp
  obtain ⟨handle, member, rfl⟩ := List.mem_map.mp listed
  have there := getElem?_of_mem_sources (mem_handles_iff.mp (own member))
  rcases rejects with unnamed | ⟨sequence, listed, error, refuses⟩
  · exact unnamed _ (List.mem_of_getElem? there) rfl
  · have same : handle.source.sequence.name = sequence.name := by cases refuses <;> assumption
    obtain rfl := indexed.eq_of_name_eq there listed same
    exact handle.not_refuses_remove refuses

private theorem Indexed.map_content_handles_rewritten (indexed : dataset.Indexed)
    (own : found ⊆ dataset.handles) :
    (dataset.rewritten (found.map (·.edit .remove))).handles.map Handle.content =
      (dataset.handles.filter fun handle => !found.any handle.sameSlot).map Handle.content := by
  have slots : (dataset.handles.filter fun handle => !found.any handle.sameSlot) =
      dataset.handles.filter fun handle => !found.any (·.location = handle.location) := by
    refine List.filter_congr ?_
    intro handle member
    rw [Bool.not_inj_iff, Bool.eq_iff_iff, List.any_eq_true, List.any_eq_true]
    refine exists_congr fun other => and_congr_right fun listed => ?_
    rw [Handle.sameSlot_comm, ← indexed.location_eq_iff (own listed) member, decide_eq_true_iff]
  rw [slots, handles, handles, sources_rewritten, List.flatMap_map, List.filter_flatMap,
    List.map_flatMap, List.map_flatMap]
  simp only [Source.map_content_handles_rewritten]

/-- Every match in an accepted pass is found. -/
private theorem result_all_of_pass (compiles : spec.compile = .ok target)
    (accepted : traversal.check = .ok ()) :
    (do (← Scan.of dataset traversal).all spec : Traced (List Handle)).result =
      .ok (target.among (Scannable.tokens dataset traversal)) :=
  (Scan.result_asked (·.all spec) accepted).trans (Scan.result_all compiles)

private theorem among_tokens_eq_nil (removed : Handle.Removed found dataset.handles after.handles)
    (gone : ∀ handle ∈ dataset.handles, handle ∈ found ↔ target.accepts handle.token = true)
    (traversal : Traversal) : target.among (Scannable.tokens after traversal) = [] := by
  refine Matcher.among_eq_nil_iff.mpr ?_
  intro handle member
  obtain ⟨whole, perm, tokens⟩ := after.exists_perm_handles traversal
  rw [tokens] at member
  have listed : handle.content ∈ after.handles.map Handle.content :=
    List.mem_map_of_mem (perm.subset ((traversal.limited_sublist whole).subset member))
  rw [removed.content] at listed
  obtain ⟨old, stayed, same⟩ := List.mem_map.mp listed
  obtain ⟨member', spared⟩ := List.mem_filter.mp stayed
  have token : old.token = handle.token := congrArg Handle.Content.token same
  rw [← token]
  cases accepted : target.accepts old.token with
  | false => rfl
  | true =>
    have taken : found.any old.sameSlot = true :=
      List.any_eq_true.mpr ⟨old, (gone old member').mpr accepted, old.sameSlot_refl⟩
    rw [taken] at spared
    cases spared

/-- The matches of a specification in an accepted pass are removed with success, each of them once,
and nothing else changes. A pass without a range finds every match in the dataset, and none is left
after it. -/
theorem apply_removes_found (reachable : dataset.Reachable) (compiles : spec.compile = .ok target)
    (accepted : traversal.check = .ok ()) :
    ∃ found after before remaining,
      (do (← Scan.of dataset traversal).all spec : Traced (List Handle)).result = .ok found ∧
      (dataset.apply (found.map (·.edit .remove))).result = .ok (found.length, after) ∧
      pass dataset {} = .ok before ∧ pass after {} = .ok remaining ∧
      Handle.Removed found before remaining ∧
      (traversal.range = none →
        (∀ handle ∈ before, handle ∈ found ↔ target.accepts handle.token = true) ∧
        ∀ again : Traversal, again.check = .ok () →
          (do (← Scan.of after again).all spec : Traced (List Handle)).result = .ok []) := by
  obtain ⟨whole, perm, tokens⟩ := dataset.exists_perm_handles traversal
  have yielded : (traversal.limited whole).Sublist whole := traversal.limited_sublist whole
  have found_whole : target.among (traversal.limited whole) ⊆ whole :=
    List.Subset.trans List.filter_sublist.subset yielded.subset
  have own := List.Subset.trans found_whole perm.subset
  have once := (perm.nodup_iff.mpr dataset.nodup_handles).sublist yielded
  have applied := reachable.indexed.apply_result
    ((target.among (traversal.limited whole)).map (·.edit .remove))
  rw [reachable.indexed.firstError?_removals own, List.length_map] at applied
  have removed : Handle.Removed (target.among (traversal.limited whole)) dataset.handles _ :=
    ⟨once.filter _, own, reachable.indexed.map_content_handles_rewritten own⟩
  refine ⟨_, _, dataset.handles, _, ?_, applied, (passes_of_tokens_eq dataset.tokens_eq).forward,
    (passes_of_tokens_eq (tokens_eq _)).forward, removed, ?_⟩
  · rw [result_all_of_pass compiles accepted, tokens]
  · intro unbounded
    have every : ∀ handle ∈ dataset.handles,
        handle ∈ target.among (traversal.limited whole) ↔ target.accepts handle.token = true := by
      intro handle member
      rw [Traversal.limited, unbounded, Matcher.among, List.mem_filter]
      exact and_iff_right (perm.symm.subset member)
    refine ⟨every, ?_⟩
    intro again accepted
    rw [result_all_of_pass compiles accepted]
    exact congrArg Except.ok (among_tokens_eq_nil removed every again)

private def herd : Dataset :=
  (Change.extend
    [⟨"a", [.bare "f", .bare "g", ⟨"f", ["1"]⟩]⟩, ⟨"b", [.bare "k", .bare "f"]⟩]).perform {}

/-- Matches in two sources, found from the end. -/
theorem apply_removes_found_backwards :
    herd.Reachable ∧
      Spec.compile (.criteria (Criteria.any.withName "f")) = .ok { name := [.exact "f"] } ∧
      Traversal.check { reverse := true } = .ok () ∧
      ∃ after remaining,
        (herd.apply [⟨⟨"b", 1⟩, .remove⟩, ⟨⟨"a", 2⟩, .remove⟩, ⟨⟨"a", 0⟩, .remove⟩]).result =
          .ok (3, after) ∧
        pass after {} = .ok remaining ∧
        remaining.map Handle.content = [⟨0, 0, "a", .bare "g"⟩, ⟨0, 1, "b", .bare "k"⟩] := by
  have reachable : herd.Reachable := .step _ (.empty .standard .standard 0)
  have compiles : Spec.compile (.criteria (Criteria.any.withName "f")) =
      .ok { name := [.exact "f"] } := rfl
  have accepted : Traversal.check { reverse := true } = .ok () := rfl
  refine ⟨reachable, compiles, accepted, ?_⟩
  obtain ⟨found, after, before, remaining, all, applied, forward, again, removed, _⟩ :=
    apply_removes_found reachable compiles accepted
  obtain rfl := Except.ok.inj all
  obtain rfl := Except.ok.inj forward
  exact ⟨after, remaining, applied, again, removed.content⟩

end Dataset

end TokenQuery
