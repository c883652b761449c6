import Mathlib.Data.List.Nodup
import TokenQuery.Proofs.Criteria.Meaning
import TokenQuery.Proofs.Object.Tags
import TokenQuery.Proofs.Scan.Answers
import TokenQuery.Proofs.Traversal.Full

/-!
The definitions of objects. Main statement: looking up every object of a query gives exactly the
definitions in the sources that declare one of its tags, in the order of the sources and of the
tokens in them (`allObjects_eq_definitions`).
-/

set_option autoImplicit false

namespace TokenQuery

namespace ObjectQuery

/-- The token defines an object that the query asks for: the type is its name, and its one argument
passes all that the query sets for the identifier. -/
structure Defines (query : ObjectQuery) (token : Token) : Prop where
  name : token.name = query.objectType
  id : ∃ id ∈ token.args, token.args = [id] ∧
    Criteria.Passes query.exactId query.idPattern query.idIn (some id)

instance (query : ObjectQuery) (token : Token) : Decidable (query.Defines token) :=
  decidable_of_iff
    (token.name = query.objectType ∧ ∃ id ∈ token.args, token.args = [id] ∧
      Criteria.Passes query.exactId query.idPattern query.idIn (some id))
    ⟨fun ⟨name, id⟩ => ⟨name, id⟩, fun ⟨name, id⟩ => ⟨name, id⟩⟩

/-- What a query sets for the identifier, as a test of the first argument. -/
def idTest (query : ObjectQuery) : ArgTest where
  exact := query.exactId
  pattern := query.idPattern
  oneOf := query.idIn

variable {query : ObjectQuery} {token : Token} {matcher : Matcher}

theorem criteria_eq (query : ObjectQuery) :
    query.criteria = {
      name := some query.objectType
      argsCount := some 1
      argTests := if query.idTest = {} then [] else [query.idTest] } := by
  obtain ⟨objectType, exactId, idPattern, idIn⟩ := query
  -- The first part that is set makes the test, and the others change it in its place.
  cases exactId <;> cases idPattern <;> cases idIn <;> rfl

private theorem forall_argTests_criteria_iff (query : ObjectQuery) (text : Nat → Option String) :
    (∀ test ∈ query.criteria.argTests,
        Criteria.Passes test.exact test.pattern test.oneOf (text test.position)) ↔
      Criteria.Passes query.exactId query.idPattern query.idIn (text 0) := by
  rw [criteria_eq]
  dsimp only
  by_cases unset : query.idTest = {}
  · have blank : query.exactId = none ∧ query.idPattern = none ∧ query.idIn = none := by
      simpa [idTest] using unset
    rw [if_pos unset, blank.1, blank.2.1, blank.2.2]
    simp [Criteria.passes_none]
  · rw [if_neg unset]
    exact List.forall_mem_singleton

private theorem arg?_zero_of_single {id : String} (single : token.args = [id]) :
    token.arg? 0 = some id := by
  rw [Token.arg?, single, List.getElem?_cons_zero]

private theorem holds_criteria_iff : query.criteria.Holds token ↔ query.Defines token := by
  constructor
  · rintro ⟨name, _, argsCount, argTests, _⟩
    rw [forall_argTests_criteria_iff] at argTests
    rw [criteria_eq] at name argsCount
    obtain ⟨given, here, named⟩ := name.exact query.objectType rfl
    obtain ⟨id, single⟩ := List.length_eq_one_iff.mp (argsCount 1 rfl)
    refine ⟨(Option.some.inj here).trans named.symm, id, by simp [single], single, ?_⟩
    rw [← arg?_zero_of_single single]
    exact argTests
  · rintro ⟨name, id, _, single, passes⟩
    rw [← arg?_zero_of_single single] at passes
    have argTests := (query.forall_argTests_criteria_iff token.arg?).mpr passes
    rw [criteria_eq] at argTests ⊢
    refine ⟨⟨?_, nofun, nofun⟩, nofun, ?_, argTests, nofun⟩
    · rintro expected ⟨⟩
      exact ⟨token.name, rfl, name.symm⟩
    · rintro count ⟨⟩
      rw [Token.nargs, single, List.length_singleton]

theorem Defines.exists_arg?_zero (defines : query.Defines token) :
    ∃ id, token.arg? 0 = some id := by
  obtain ⟨id, _, single, _⟩ := defines.id
  exact ⟨id, arg?_zero_of_single single⟩

end ObjectQuery

namespace Resolver

/-- The first token of the source is the sentinel with one of the tags for its one argument. -/
def Heads (resolver : Resolver) (tags : List String) (source : Source) : Prop :=
  ∃ root ∈ source.root?, root.token.name = resolver.sentinel ∧
    ∃ tag ∈ tags, root.token.args = [tag]

instance (resolver : Resolver) (tags : List String) (source : Source) :
    Decidable (resolver.Heads tags source) :=
  inferInstanceAs (Decidable (∃ root ∈ source.root?, root.token.name = resolver.sentinel ∧
    ∃ tag ∈ tags, root.token.args = [tag]))

/-- The token stands behind the root of a source that declares one of the tags, and defines an
object that the query asks for. -/
structure IsDefinition (resolver : Resolver) (tags : List String) (query : ObjectQuery)
    (handle : Handle) : Prop where
  headed : resolver.Heads tags handle.source
  behind : 1 ≤ handle.index
  defines : query.Defines handle.token

instance (resolver : Resolver) (tags : List String) (query : ObjectQuery) (handle : Handle) :
    Decidable (resolver.IsDefinition tags query handle) :=
  decidable_of_iff
    (resolver.Heads tags handle.source ∧ 1 ≤ handle.index ∧ query.Defines handle.token)
    ⟨fun ⟨headed, behind, defines⟩ => ⟨headed, behind, defines⟩,
      fun ⟨headed, behind, defines⟩ => ⟨headed, behind, defines⟩⟩

/-- The definitions in some sources, source by source and by increasing index. -/
def definitions (resolver : Resolver) (tags : List String) (query : ObjectQuery)
    (sources : List Source) : List Handle :=
  (sources.flatMap Source.handles).filter fun handle => resolver.IsDefinition tags query handle

variable {resolver : Resolver} {tags : List String} {source : Source} {sources : List Source}
  {handle root : Handle} {query : ObjectQuery} {spec : ObjectSpec} {matcher : Matcher}

theorem mem_definitions_iff :
    handle ∈ resolver.definitions tags query sources ↔
      handle.source ∈ sources ∧ resolver.IsDefinition tags query handle := by
  simp only [definitions, List.mem_filter, List.mem_flatMap, Source.mem_handles_iff,
    decide_eq_true_eq, exists_eq_right']

theorem isHeader_eq_true_iff :
    resolver.isHeader tags source.sequence = true ↔ resolver.Heads tags source := by
  obtain ⟨store, position, name, tokens⟩ := source
  cases tokens with
  | nil => simp [isHeader, Heads, Source.root?, Source.at?, Sequence.size]
  | cons first rest =>
    have found : Source.root? ⟨store, position, name, first :: rest⟩ =
        some ⟨⟨store, position, name, first :: rest⟩, 0, Nat.succ_pos _⟩ := rfl
    simp only [Heads, found, Option.mem_some_iff, exists_eq_left']
    change (first.name == resolver.sentinel && _) = true ↔
      first.name = resolver.sentinel ∧ ∃ tag ∈ tags, first.args = [tag]
    rw [Bool.and_eq_true, beq_iff_eq]
    refine and_congr_right fun _ => ?_
    split
    · rename_i tag single
      rw [List.contains_iff_mem]
      constructor
      · exact fun member => ⟨tag, member, single⟩
      · rintro ⟨other, member, same⟩
        cases single.symm.trans same
        exact member
    · rename_i several
      simp only [Bool.false_eq_true, false_iff]
      rintro ⟨tag, _, single⟩
      exact several tag single

theorem root?_isSome_of_heads (headed : resolver.Heads tags source) :
    ∃ root, source.root? = some root ∧ root.source = source ∧ root.index = 0 := by
  obtain ⟨root, here, _⟩ := headed
  exact ⟨root, here, Source.at?_eq_some_iff.mp here⟩

private theorem among_tokens_root (headed : resolver.Heads tags source) (own : root.source = source)
    (first : root.index = 0)
    (defines : ∀ token, matcher.accepts token = true ↔ query.Defines token) :
    matcher.among (Scannable.tokens root {}) =
      source.handles.filter fun handle => resolver.IsDefinition tags query handle := by
  have behind : Scannable.tokens root {} = root.after := root.tokens_eq {}
  rw [behind, Handle.after_eq_filter, own, first, Matcher.among, List.filter_filter]
  refine List.filter_congr ?_
  intro handle member
  have here := Source.mem_handles_iff.mp member
  rw [Bool.eq_iff_iff, Bool.and_eq_true, defines, decide_eq_true_iff, decide_eq_true_iff]
  constructor
  · rintro ⟨defined, behind⟩
    exact ⟨here ▸ headed, behind, defined⟩
  · rintro ⟨_, behind, defined⟩
    exact ⟨defined, behind⟩

private theorem definitions_cons :
    resolver.definitions tags query (source :: sources) =
      (source.handles.filter fun handle => resolver.IsDefinition tags query handle) ++
        resolver.definitions tags query sources := by
  rw [definitions, List.flatMap_cons, List.filter_append, definitions]

theorem flatMap_rootsOf (resolver : Resolver) (tags : List String) (sources : List Source)
    (defines : ∀ token, matcher.accepts token = true ↔ query.Defines token) :
    ((resolver.rootsOf tags sources).flatMap fun root =>
        matcher.among (Scannable.tokens root {})) =
      resolver.definitions tags query sources := by
  -- The induction is on the sources; one without a tag has neither such a root nor a definition.
  induction sources with
  | nil => rfl
  | cons source rest ih =>
    rw [definitions_cons, ← ih, rootsOf]
    by_cases headed : resolver.Heads tags source
    · obtain ⟨root, found, own, first⟩ := root?_isSome_of_heads headed
      rw [List.filter_cons, if_pos (isHeader_eq_true_iff.mpr headed),
        List.filterMap_cons_some found, List.flatMap_cons,
        among_tokens_root headed own first defines, rootsOf]
    · -- Its tokens may well match, but none of them is looked at.
      have none_defined :
          (source.handles.filter fun handle => resolver.IsDefinition tags query handle) = [] := by
        refine List.filter_eq_nil_iff.mpr ?_
        intro handle member defined
        have here := Source.mem_handles_iff.mp member
        exact headed (here ▸ (of_decide_eq_true defined).headed)
      rw [List.filter_cons, if_neg (mt isHeader_eq_true_iff.mp headed), none_defined,
        List.nil_append, rootsOf]

theorem result_scan_root (root : Handle) :
    (liftM (Scan.of root {}) : Traced Scan).result = .ok ⟨Scannable.tokens root {}⟩ := rfl

private theorem result_allAfter (matcher : Matcher) (roots : List Handle) :
    (allAfter matcher roots).result =
      .ok (roots.flatMap fun root => matcher.among (Scannable.tokens root {})) := by
  induction roots with
  | nil => rfl
  | cons root rest ih =>
    rw [allAfter, Traced.result_bind_of_ok (result_scan_root root),
      Traced.result_bind_of_ok (Scan.result_resultOf _ _ _), Traced.result_bind_of_ok ih,
      Query.resultAt_zero_of_plain rfl, Filter.kept_of_limit_none rfl]
    rfl

theorem result_prepare (reads : spec.toQuery = .ok query)
    (compiles : query.criteria.compile = .ok matcher) :
    (resolver.prepare spec).result =
      .ok (query.objectType, resolver.normalize query.objectType, matcher) := by
  have read : (liftM spec.toQuery : Traced ObjectQuery).result = .ok query := reads
  have compiled : (liftM query.criteria.compile : Traced Matcher).result = .ok matcher := compiles
  rw [prepare, Traced.result_bind_of_ok read, Traced.result_bind_of_ok compiled]
  rfl

theorem accepts_iff_defines (compiles : query.criteria.compile = .ok matcher) (token : Token) :
    matcher.accepts token = true ↔ query.Defines token :=
  (Criteria.accepts_iff_holds compiles token).trans ObjectQuery.holds_criteria_iff

theorem result_allObjects (resolver : Resolver) (sources : List Source)
    (reads : spec.toQuery = .ok query) (compiles : query.criteria.compile = .ok matcher) :
    (resolver.allObjects sources spec).result =
      .ok (resolver.definitions (resolver.normalize query.objectType) query sources) := by
  rw [allObjects, Traced.result_bind_of_ok (result_prepare reads compiles)]
  dsimp only
  rw [Traced.result_bind_of_ok (result_allAfter _ _),
    flatMap_rootsOf _ _ _ (accepts_iff_defines compiles)]
  split
  · rfl
  · rfl

private theorem count_definitions (defined : resolver.IsDefinition tags query handle) :
    (resolver.definitions tags query sources).count handle = sources.count handle.source := by
  rw [← Source.count_flatMap_handles]
  exact List.count_filter (p := fun handle => decide (resolver.IsDefinition tags query handle))
    (decide_eq_true defined)

/-- Every object of a query is looked up as the definitions in the sources: each source that
declares one of the tags of the type contributes its definitions in their order, and nothing else is
found. -/
theorem allObjects_eq_definitions (resolver : Resolver) (sources : List Source) (spec : ObjectSpec)
    (query : ObjectQuery) (matcher : Matcher) (reads : spec.toQuery = .ok query)
    (compiles : query.criteria.compile = .ok matcher) :
    ∃ tags,
      (∀ other, TypeRule.TagsOf query.objectType resolver.rules other ↔ other = tags) ∧
      (resolver.allObjects sources spec).result =
        .ok (resolver.definitions tags query sources) ∧
      (∀ handle, handle ∈ resolver.definitions tags query sources ↔
        handle.source ∈ sources ∧ resolver.IsDefinition tags query handle) ∧
      ∀ handle, resolver.IsDefinition tags query handle →
        (resolver.definitions tags query sources).count handle = sources.count handle.source := by
  refine ⟨resolver.normalize query.objectType, ?_,
    result_allObjects resolver sources reads compiles,
    fun _ => mem_definitions_iff, fun _ => count_definitions⟩
  intro other
  rw [← normalize_eq_iff, eq_comm]

private def shades : Source :=
  ⟨0, 0, ⟨"shades", [⟨"OBJECT", ["DESCRIPTOR_COLOR"]⟩, ⟨"COLOR", ["AMBER"]⟩, ⟨"COLOR", ["BLUE"]⟩,
    ⟨"COLOR", ["AMBER", "DARK"]⟩, ⟨"COLOR", ["AQUA"]⟩]⟩⟩

private def creature : Source :=
  ⟨0, 1, ⟨"creature", [⟨"OBJECT", ["CREATURE"]⟩, ⟨"COLOR", ["ASH"]⟩]⟩⟩

private def pale : ObjectQuery where
  objectType := "COLOR"
  idPattern := some "A"

/-- A header from a placeholder, and a source of another type given between two of this one. -/
theorem allObjects_among_shades :
    (∃ matcher, pale.criteria.compile = .ok matcher) ∧
      (standard.allObjects [shades, creature, shades] (.query pale)).result =
        .ok [⟨shades, 1, by decide⟩, ⟨shades, 4, by decide⟩, ⟨shades, 1, by decide⟩,
          ⟨shades, 4, by decide⟩] := by
  obtain ⟨matcher, compiles⟩ : ∃ matcher, pale.criteria.compile = .ok matcher := ⟨_, rfl⟩
  obtain ⟨tags, only, result, _⟩ := allObjects_eq_definitions standard [shades, creature, shades]
    (.query pale) pale matcher rfl compiles
  obtain rfl := (only ["DESCRIPTOR", "DESCRIPTOR_COLOR"]).mp (normalize_eq_iff.mp (by decide))
  refine ⟨⟨matcher, compiles⟩, ?_⟩
  rw [result]
  decide

end Resolver

end TokenQuery
