import TokenQuery.Proofs.Dataset.Lookup
import TokenQuery.Proofs.Dataset.Removal
import TokenQuery.Proofs.Object.Lookups
import TokenQuery.Proofs.Scope.Dictionary

/-!
The identity of tokens in a dataset. Every way of asking a dataset for tokens gives tokens of its
own sources. Main statement: in every dataset that changes have reached, such tokens are the same
slot exactly when their locations are equal, and the location of a token finds the token again
(`sameSlot_iff_location_eq`).
-/

set_option autoImplicit false

namespace TokenQuery

section Passes

variable (traversal : Traversal)

private theorem limited_subset {onward backward whole : List Handle} (ahead : onward ⊆ whole)
    (behind : backward ⊆ whole) :
    traversal.limited (if traversal.reverse then backward else onward) ⊆ whole := by
  refine List.Subset.trans (traversal.limited_sublist _).subset ?_
  split
  · exact behind
  · exact ahead

private theorem Source.tokens_subset_handles (source : Source) :
    Scannable.tokens source traversal ⊆ source.handles := by
  rw [tokens_eq]
  exact limited_subset traversal (List.Subset.refl _) (List.reverse_subset.mpr (List.Subset.refl _))

private theorem Handle.tokens_subset_handles (handle : Handle) :
    Scannable.tokens handle traversal ⊆ handle.source.handles := by
  rw [tokens_eq]
  exact limited_subset traversal (List.drop_subset _ _)
    (List.reverse_subset.mpr (List.take_subset _ _))

private theorem Dataset.tokens_subset_handles (dataset : Dataset) :
    Scannable.tokens dataset traversal ⊆ dataset.handles := by
  rw [tokens_eq]
  exact limited_subset traversal (List.Subset.refl _) (List.reverse_subset.mpr (List.Subset.refl _))

end Passes

namespace Scan

/-- What can be asked about a pass: every match of a query, or one of the single questions. -/
inductive Question where
  | run (query : Query)
  | get (spec : Spec)
  | last (spec : Spec)
  | all (spec : Spec)
  | before (boundary : Spec)
  | getBefore (spec boundary : Spec)
  | lastBefore (spec boundary : Spec)
  | allBefore (spec boundary : Spec)

/-- The tokens in the answer to a question. -/
def answer (scan : Scan) : Question → Traced (List Handle)
  | .run query => do
    let (after, _) ← scan.query query
    return after.filters.flatMap (·.result.toList)
  | .get spec => do return (← scan.get spec).toList
  | .last spec => do return (← scan.last spec).toList
  | .all spec => scan.all spec
  | .before boundary => scan.before boundary
  | .getBefore spec boundary => do return (← scan.getBefore spec boundary).toList
  | .lastBefore spec boundary => do return (← scan.lastBefore spec boundary).toList
  | .allBefore spec boundary => scan.allBefore spec boundary

variable {scan : Scan} {filters : List Filter} {position : Nat} {found : List Handle}
  {question : Question}

private theorem subset_of_picked {pick : Array Handle → List Handle}
    (picks : ∀ kept, pick kept ⊆ kept.toList)
    (answered : (do return pick (← scan.resultOf filters position) : Traced (List Handle)).result =
      .ok found) : found ⊆ scan.handles := by
  have own : (((⟨filters⟩ : Query).run scan.handles).1.resultAt position).toList ⊆
      scan.handles := by
    rw [Query.resultAt]
    cases there : ((⟨filters⟩ : Query).run scan.handles).1.filters[position]? with
    | none => exact List.nil_subset _
    | some filter =>
      exact (Query.result_sublist_of_mem_run (List.mem_of_getElem? there)).subset
  rw [Traced.result_bind_of_ok (result_resultOf _ _ _)] at answered
  obtain rfl := Except.ok.inj answered
  exact List.Subset.trans (picks _) own

private theorem first_subset (kept : Array Handle) : kept[0]?.toList ⊆ kept.toList := by
  intro handle member
  exact Array.mem_toList_iff.mpr (Array.mem_of_getElem? (Option.mem_toList.mp member))

private theorem last_subset (kept : Array Handle) : kept.back?.toList ⊆ kept.toList := by
  intro handle member
  exact Array.mem_toList_iff.mpr (Array.mem_of_back? (Option.mem_toList.mp member))

private theorem subset_of_answer (answered : (scan.answer question).result = .ok found) :
    found ⊆ scan.handles := by
  cases question with
  | run query =>
    obtain rfl := Except.ok.inj answered
    intro handle member
    obtain ⟨filter, listed, kept⟩ := List.mem_flatMap.mp member
    exact (Query.result_sublist_of_mem_run listed).subset kept
  | get spec =>
    simp only [answer, get, bind_assoc, pure_bind] at answered
    obtain ⟨_, _, answered⟩ := Traced.result_bind_eq_ok_iff.mp answered
    exact subset_of_picked first_subset answered
  | last spec =>
    simp only [answer, last, bind_assoc, pure_bind] at answered
    obtain ⟨_, _, answered⟩ := Traced.result_bind_eq_ok_iff.mp answered
    exact subset_of_picked last_subset answered
  | all _ | before _ =>
    obtain ⟨_, _, answered⟩ := Traced.result_bind_eq_ok_iff.mp answered
    exact subset_of_picked (fun _ => List.Subset.refl _) answered
  | getBefore spec boundary =>
    simp only [answer, getBefore, bind_assoc, pure_bind] at answered
    obtain ⟨_, _, answered⟩ := Traced.result_bind_eq_ok_iff.mp answered
    obtain ⟨_, _, answered⟩ := Traced.result_bind_eq_ok_iff.mp answered
    exact subset_of_picked first_subset answered
  | lastBefore spec boundary =>
    simp only [answer, lastBefore, bind_assoc, pure_bind] at answered
    obtain ⟨_, _, answered⟩ := Traced.result_bind_eq_ok_iff.mp answered
    obtain ⟨_, _, answered⟩ := Traced.result_bind_eq_ok_iff.mp answered
    exact subset_of_picked last_subset answered
  | allBefore spec boundary =>
    obtain ⟨_, _, answered⟩ := Traced.result_bind_eq_ok_iff.mp answered
    obtain ⟨_, _, answered⟩ := Traced.result_bind_eq_ok_iff.mp answered
    exact subset_of_picked (fun _ => List.Subset.refl _) answered

end Scan

namespace Props

/-- What can be asked about the properties of an owner. A dictionary is asked for a key. -/
inductive Question where
  | get (spec : Spec)
  | last (spec : Spec)
  | all (spec : Spec)
  | tokens
  | dict (options : PropDictOptions) (key : String)

/-- The tokens in the answer to a question. -/
def answer (props : Props) : Question → Traced (List Handle)
  | .get spec => do return (← props.get spec).toList
  | .last spec => do return (← props.last spec).toList
  | .all spec => props.all spec
  | .tokens => props.tokens
  | .dict options key => do
    return (((← props.dict options).get? key).map PropValue.toList).getD []

variable {props : Props} {question : Question} {found : List Handle}

private theorem subset_of_scan (asked : Scan.Question)
    (answered : (do (← props.scan).answer asked : Traced (List Handle)).result = .ok found) :
    found ⊆ Scannable.tokens props.owner props.traversal := by
  obtain ⟨scan, passed, answered⟩ := Traced.result_bind_eq_ok_iff.mp answered
  obtain ⟨_, yielded⟩ := pass_eq_ok_iff.mp (Scan.of_eq_ok_iff.mp passed)
  rw [← yielded]
  exact Scan.subset_of_answer answered

private theorem subset_of_answer (answered : (props.answer question).result = .ok found) :
    found ⊆ Scannable.tokens props.owner props.traversal := by
  cases question with
  | get spec =>
    simp only [answer, get, bind_assoc] at answered
    exact subset_of_scan (.getBefore spec props.boundary) answered
  | last spec =>
    simp only [answer, last, bind_assoc] at answered
    exact subset_of_scan (.lastBefore spec props.boundary) answered
  | all spec => exact subset_of_scan (.allBefore spec props.boundary) answered
  | tokens => exact (sublist_of_tokens answered).subset
  | dict options key =>
    obtain ⟨dict, made, returned⟩ := Traced.result_bind_eq_ok_iff.mp answered
    obtain ⟨properties, tokens, kept⟩ := Traced.result_bind_eq_ok_iff.mp made
    obtain rfl := Except.ok.inj kept
    obtain rfl := Except.ok.inj returned
    rw [PropDict.get?_ofProps (pairwise_slots_of_tokens tokens), PropValue.getD_toList_ofList?]
    exact List.Subset.trans (List.filter_subset_self _) (sublist_of_tokens tokens).subset

end Props

namespace Resolver

/-- What can be asked about the objects in some sources. A map of objects is asked for an
identifier. -/
inductive Question where
  | headers (objectType : String)
  | object (spec : ObjectSpec)
  | objects (spec : ObjectSpec)
  | entry (spec : ObjectSpec) (id : String)

/-- The tokens in the answer to a question. -/
def answer (resolver : Resolver) (sources : List Source) : Question → Traced (List Handle)
  | .headers objectType => return resolver.headers sources objectType
  | .object spec => do return (← resolver.getObject sources spec).toList
  | .objects spec => resolver.allObjects sources spec
  | .entry spec id => do return ((← resolver.objectMap sources spec).lookup id).toList

variable {resolver : Resolver} {sources : List Source} {spec : ObjectSpec} {question : Question}
  {found : List Handle} {handle : Handle}

private theorem source_mem_of_mem_rootsOf {tags : List String}
    (member : handle ∈ resolver.rootsOf tags sources) : handle.source ∈ sources := by
  obtain ⟨source, headed, first⟩ := List.mem_filterMap.mp member
  rw [(Source.at?_eq_some_iff.mp first).1]
  exact List.mem_of_mem_filter headed

private theorem fails_or_finds (resolver : Resolver) (sources : List Source) (spec : ObjectSpec) :
    (∃ error, (resolver.getObject sources spec).result = .error error ∧
      (resolver.allObjects sources spec).result = .error error) ∨
    ∃ objects, (resolver.getObject sources spec).result = .ok objects.head? ∧
      (resolver.allObjects sources spec).result = .ok objects ∧
      ∀ handle ∈ objects, handle.source ∈ sources := by
  rcases spec.fails_or_compiles with ⟨error, fails⟩ | ⟨query, matcher, reads, compiles⟩
  · have prepared := result_prepare_of_fails resolver fails
    exact .inl ⟨error, Traced.result_bind_of_error prepared, Traced.result_bind_of_error prepared⟩
  · exact .inr ⟨_, result_getObject resolver sources reads compiles,
      result_allObjects resolver sources reads compiles,
      fun handle member => (mem_definitions_iff.mp member).1⟩

private theorem source_mem_of_answer
    (answered : (resolver.answer sources question).result = .ok found)
    (member : handle ∈ found) : handle.source ∈ sources := by
  cases question with
  | headers objectType =>
    obtain rfl := Except.ok.inj answered
    exact source_mem_of_mem_rootsOf member
  | object spec =>
    obtain ⟨first, asked, returned⟩ := Traced.result_bind_eq_ok_iff.mp answered
    obtain rfl := Except.ok.inj returned
    rcases resolver.fails_or_finds sources spec with ⟨_, failed, _⟩ | ⟨objects, get, _, within⟩
    · cases failed.symm.trans asked
    · obtain rfl := Except.ok.inj (get.symm.trans asked)
      exact within handle (List.mem_of_head? (Option.mem_toList.mp member))
  | objects spec =>
    rcases resolver.fails_or_finds sources spec with ⟨_, _, failed⟩ | ⟨objects, _, all, within⟩
    · cases failed.symm.trans answered
    · obtain rfl := Except.ok.inj (all.symm.trans answered)
      exact within handle member
  | entry spec id =>
    obtain ⟨entries, asked, returned⟩ := Traced.result_bind_eq_ok_iff.mp answered
    obtain rfl := Except.ok.inj returned
    rcases resolver.fails_or_finds sources spec with ⟨_, _, failed⟩ | ⟨objects, _, all, within⟩
    · cases (Traced.result_bind_of_error failed).symm.trans asked
    · obtain rfl := Except.ok.inj ((result_objectMap all).symm.trans asked)
      rw [Entries.lookup_collected] at member
      have listed := List.mem_of_mem_getLast? (Option.mem_toList.mp member)
      exact within handle (List.mem_of_mem_filter listed)

end Resolver

namespace Dataset

/-- The tokens that a dataset gives: at a location or an index, in a pass over the dataset or from
one of its sources or tokens, and in the answers to questions about passes over given tokens, about
the properties of a given token, and about the objects in some of the sources. -/
inductive Obtained (dataset : Dataset) : Handle → Prop
  | located {location : Location} {handle : Handle} :
      dataset.at? location = some handle → Obtained dataset handle
  | indexed {source : Source} {index : Nat} {handle : Handle} :
      source ∈ dataset.sources → source.at? index = some handle → Obtained dataset handle
  | passed {traversal : Traversal} {found : List Handle} {handle : Handle} :
      pass dataset traversal = .ok found → handle ∈ found → Obtained dataset handle
  | passed_source {source : Source} {traversal : Traversal} {found : List Handle}
      {handle : Handle} :
      source ∈ dataset.sources → pass source traversal = .ok found → handle ∈ found →
      Obtained dataset handle
  | passed_token {owner : Handle} {traversal : Traversal} {found : List Handle}
      {handle : Handle} :
      Obtained dataset owner → pass owner traversal = .ok found → handle ∈ found →
      Obtained dataset handle
  | scanned {scan : Scan} {question : Scan.Question} {found : List Handle} {handle : Handle} :
      (∀ other ∈ scan.handles, Obtained dataset other) →
      (scan.answer question).result = .ok found → handle ∈ found → Obtained dataset handle
  | owned {props : Props} {question : Props.Question} {found : List Handle} {handle : Handle} :
      Obtained dataset props.owner → (props.answer question).result = .ok found →
      handle ∈ found → Obtained dataset handle
  | defined {resolver : Resolver} {sources : List Source} {question : Resolver.Question}
      {found : List Handle} {handle : Handle} :
      sources ⊆ dataset.sources → (resolver.answer sources question).result = .ok found →
      handle ∈ found → Obtained dataset handle

variable {dataset : Dataset} {handle : Handle}

/-- Every token that a dataset gives is in one of its sources. -/
private theorem Obtained.source_mem (obtained : dataset.Obtained handle) :
    handle.source ∈ dataset.sources := by
  induction obtained with
  | located found =>
    obtain ⟨source, named, there⟩ := Option.bind_eq_some_iff.mp found
    rw [(Source.at?_eq_some_iff.mp there).1]
    exact mem_sources_of_source? named
  | indexed listed found =>
    rw [(Source.at?_eq_some_iff.mp found).1]
    exact listed
  | passed yielded member =>
    obtain ⟨_, rfl⟩ := pass_eq_ok_iff.mp yielded
    exact mem_handles_iff.mp (dataset.tokens_subset_handles _ member)
  | passed_source listed yielded member =>
    obtain ⟨_, rfl⟩ := pass_eq_ok_iff.mp yielded
    rw [Source.mem_handles_iff.mp (Source.tokens_subset_handles _ _ member)]
    exact listed
  | passed_token _ yielded member ih =>
    obtain ⟨_, rfl⟩ := pass_eq_ok_iff.mp yielded
    rw [Source.mem_handles_iff.mp (Handle.tokens_subset_handles _ _ member)]
    exact ih
  | scanned _ answered member ih => exact ih _ (Scan.subset_of_answer answered member)
  | owned _ answered member ih =>
    have yielded := Props.subset_of_answer answered member
    rw [Source.mem_handles_iff.mp (Handle.tokens_subset_handles _ _ yielded)]
    exact ih
  | defined listed answered member =>
    exact listed (Resolver.source_mem_of_answer answered member)

/-- In every dataset that changes have reached, tokens obtained from it are the same slot exactly
when their locations are equal, and the location of a token finds its source by the name and the
token by the index. -/
theorem sameSlot_iff_location_eq (reachable : dataset.Reachable) :
    (∀ a b, dataset.Obtained a → dataset.Obtained b →
      (a.sameSlot b = true ↔ a.location = b.location)) ∧
    ∀ handle, dataset.Obtained handle → ∃ source found,
      dataset.source? handle.location.source = some source ∧
      source.at? handle.location.index = some found ∧ found.sameSlot handle = true := by
  have indexed := reachable.indexed
  refine ⟨?_, ?_⟩
  · intro a b obtained obtained'
    exact (indexed.location_eq_iff (mem_handles_iff.mpr obtained.source_mem)
      (mem_handles_iff.mpr obtained'.source_mem)).symm
  · intro handle obtained
    exact ⟨handle.source, handle, indexed.source?_eq_some_iff.mpr ⟨obtained.source_mem, rfl⟩,
      Source.at?_eq_some_iff.mpr ⟨rfl, rfl⟩, handle.sameSlot_refl⟩

private def restocked : Dataset :=
  (Change.addSource ⟨"a", [.bare "g", .bare "g"]⟩).perform
    (ofSequences [⟨"a", [.bare "f"]⟩, ⟨"b", [.bare "g"]⟩])

private def shelf : Source := ⟨0, 0, ⟨"a", [.bare "g", .bare "g"]⟩⟩

private def twins : List Handle :=
  [⟨shelf, 0, by decide⟩, ⟨shelf, 1, by decide⟩, ⟨⟨0, 1, ⟨"b", [.bare "g"]⟩⟩, 0, by decide⟩]

/-- Equal tokens that one question finds, two of them in a source that was replaced. -/
theorem sameSlot_in_restocked :
    restocked.Reachable ∧ (∀ handle ∈ twins, restocked.Obtained handle) ∧
      Handle.sameSlot ⟨shelf, 0, by decide⟩ ⟨shelf, 1, by decide⟩ = false ∧
      ∃ source found, restocked.source? "a" = some source ∧ source.at? 1 = some found ∧
        found.sameSlot ⟨shelf, 1, by decide⟩ = true := by
  have reachable : restocked.Reachable := (reachable_ofSequences _).step _
  have yielded : pass restocked {} = .ok (Scannable.tokens restocked {}) := rfl
  have answered : (Scan.answer ⟨Scannable.tokens restocked {}⟩
      (.all (.criteria (Criteria.any.withName "g")))).result = .ok twins := by decide
  have obtained : ∀ handle ∈ twins, restocked.Obtained handle := by
    intro handle member
    exact .scanned (fun _ listed => .passed yielded listed) answered member
  obtain ⟨identified, resolved⟩ := sameSlot_iff_location_eq reachable
  refine ⟨reachable, obtained, ?_, resolved _ (obtained ⟨shelf, 1, by decide⟩ (.tail _ (.head _)))⟩
  rw [← Bool.not_eq_true, identified _ _ (obtained _ (.head _)) (obtained _ (.tail _ (.head _)))]
  decide

end Dataset

end TokenQuery
