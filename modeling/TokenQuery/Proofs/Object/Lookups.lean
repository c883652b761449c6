import TokenQuery.Proofs.Entries
import TokenQuery.Proofs.Object.Definitions

/-!
How the lookups of objects agree. Main statement: the lookups of the first definition, of every
definition and of the definitions by identifier fail together and only for what is wrong with the
query, and else answer from one list of definitions (`lookups_agree`).
-/

set_option autoImplicit false

namespace TokenQuery

namespace ObjectQuery

variable {query : ObjectQuery} {pattern : String} {cause : PatternError}

/-- A shorthand sets neither a pattern nor a set for the identifier, and fails to read for a cause
that lies in its text. -/
private theorem parse_cases (text : String) :
    (∃ cause, parse text = .error (.parse cause text)) ∨
      ∃ query, parse text = .ok query ∧ query.idPattern = none ∧ query.idIn = none := by
  unfold parse Shorthand.split
  cases Shorthand.read (Text.trim text.toList) with
  | error cause => exact .inl ⟨cause, rfl⟩
  | ok read =>
    obtain ⟨name, args⟩ := read
    match args with
    | [] => exact .inr ⟨_, rfl, rfl, rfl⟩
    | [id] => exact .inr ⟨_, rfl, rfl, rfl⟩
    | _ :: _ :: _ => exact .inl ⟨.surplusColon, rfl⟩

private theorem compile_criteria_of_clash (patterned : query.idPattern.isSome)
    (listed : query.idIn.isSome) :
    query.criteria.compile = .error (.ambiguous (.argumentTest 0)) := by
  obtain ⟨objectType, exactId, _ | pattern, _ | ids⟩ := query
  · cases patterned
  · cases patterned
  · cases listed
  · cases exactId <;> rfl

private theorem compile_criteria_of_misread (patterned : query.idPattern = some pattern)
    (unlisted : query.idIn = none) (refused : Pattern.anchored pattern = .error cause) :
    query.criteria.compile = .error (.pattern cause) := by
  have unread : Criteria.readPattern pattern = .error (.pattern cause) := by
    rw [Criteria.readPattern, refused]
  have untested : Criteria.textTests query.exactId query.idPattern query.idIn =
      .error (.pattern cause) := by
    simp [Criteria.textTests, patterned, unread, bind, Except.bind]
  -- The only test is that of the identifier, so the clash could only be its own.
  have unclashing : Criteria.clashes [query.idTest] 0 = false := by
    simp [Criteria.clashes, idTest, unlisted]
  have failed : Criteria.compileTest [query.idTest] query.idTest = .error (.pattern cause) := by
    change (if Criteria.clashes [query.idTest] 0 then _ else _) = _
    rw [unclashing, if_neg Bool.false_ne_true]
    change (Criteria.textTests query.exactId query.idPattern query.idIn >>= _) = _
    rw [untested]
    rfl
  have set : query.idTest ≠ {} := by simp [idTest, patterned]
  rw [criteria_eq, if_neg set]
  change (List.mapM (Criteria.compileTest [query.idTest]) [query.idTest] >>= _) = _
  rw [List.mapM_cons, failed]
  rfl

private theorem eq_idTest_of_mem {test : ArgTest} (member : test ∈ query.criteria.argTests) :
    test = query.idTest := by
  rw [criteria_eq] at member
  dsimp only at member
  split at member
  · cases member
  · exact List.mem_singleton.mp member

theorem exists_compile_criteria (once : ¬ (query.idPattern.isSome ∧ query.idIn.isSome))
    (reads : ∀ pattern ∈ query.idPattern, Pattern.Reads pattern) :
    ∃ matcher, query.criteria.compile = .ok matcher := by
  have unpatterned : query.criteria.namePattern = none := by rw [criteria_eq]
  refine Criteria.exists_compile_eq_ok_iff.mpr ⟨?_, ?_, ?_, ?_⟩
  · rw [unpatterned]
    nofun
  · rintro position ⟨⟨test, first, _, patterned⟩, other, second, _, listed⟩
    obtain rfl := eq_idTest_of_mem first
    obtain rfl := eq_idTest_of_mem second
    exact once ⟨patterned, listed⟩
  · rw [unpatterned]
    nofun
  · intro test member
    obtain rfl := eq_idTest_of_mem member
    exact reads

end ObjectQuery

namespace ObjectSpec

/-- How a lookup can fail: the shorthand does not read, the identifier is given both a pattern and a
set, or the pattern is refused. -/
inductive Fails : ObjectSpec → QueryError → Prop
  | unread {text : String} {cause : ShorthandError} :
      ObjectQuery.parse text = .error (.parse cause text) →
      Fails (.shorthand text) (.parse cause text)
  | clash {query : ObjectQuery} : query.idPattern.isSome → query.idIn.isSome →
      Fails (.query query) (.ambiguous (.argumentTest 0))
  | misread {query : ObjectQuery} {pattern : String} {cause : PatternError} :
      query.idPattern = some pattern → query.idIn = none →
      Pattern.anchored pattern = .error cause → Fails (.query query) (.pattern cause)

variable {spec : ObjectSpec} {error : QueryError}

theorem fails_or_compiles (spec : ObjectSpec) :
    (∃ error, spec.Fails error) ∨
      ∃ query matcher, spec.toQuery = .ok query ∧ query.criteria.compile = .ok matcher := by
  cases spec with
  | shorthand text =>
    rcases ObjectQuery.parse_cases text with ⟨cause, unread⟩ | ⟨query, reads, unpatterned, unlisted⟩
    · exact .inl ⟨_, .unread unread⟩
    · obtain ⟨matcher, compiles⟩ : ∃ matcher, query.criteria.compile = .ok matcher := by
        apply ObjectQuery.exists_compile_criteria
        · simp [unpatterned]
        · simp [unpatterned]
      exact .inr ⟨query, matcher, reads, compiles⟩
  | query given =>
    by_cases clash : given.idPattern.isSome ∧ given.idIn.isSome
    · exact .inl ⟨_, .clash clash.1 clash.2⟩
    by_cases reads : ∀ pattern ∈ given.idPattern, Pattern.Reads pattern
    · obtain ⟨matcher, compiles⟩ := ObjectQuery.exists_compile_criteria clash reads
      exact .inr ⟨given, matcher, rfl, compiles⟩
    · simp only [not_forall] at reads
      obtain ⟨pattern, patterned, unread⟩ := reads
      have unlisted : given.idIn = none := by
        rw [Option.mem_def.mp patterned] at clash
        simpa using clash
      cases refused : Pattern.anchored pattern with
      | error cause => exact .inl ⟨_, .misread patterned unlisted refused⟩
      | ok expr => exact absurd ⟨expr, refused⟩ unread

end ObjectSpec

namespace Resolver

variable {resolver : Resolver} {spec : ObjectSpec} {error : QueryError} {sources : List Source}
  {tags : List String} {source : Source}

theorem result_prepare_of_fails (resolver : Resolver) (fails : spec.Fails error) :
    (resolver.prepare spec).result = .error error := by
  have of_compile {query : ObjectQuery} (refused : query.criteria.compile = .error error) :
      (resolver.prepare (.query query)).result = .error error := by
    have read : (liftM (ObjectSpec.query query).toQuery : Traced ObjectQuery).result = .ok query :=
      rfl
    have failed : (liftM query.criteria.compile : Traced Matcher).result = .error error := refused
    rw [prepare, Traced.result_bind_of_ok read]
    exact Traced.result_bind_of_error failed
  cases fails with
  | unread unread =>
    have failed : (liftM (ObjectQuery.parse _) : Traced ObjectQuery).result = .error _ := unread
    exact Traced.result_bind_of_error failed
  | clash patterned listed =>
    exact of_compile (ObjectQuery.compile_criteria_of_clash patterned listed)
  | misread patterned unlisted refused =>
    exact of_compile (ObjectQuery.compile_criteria_of_misread patterned unlisted refused)

private theorem result_firstAfter (matcher : Matcher) (roots : List Handle) :
    (firstAfter matcher roots).result =
      .ok (roots.flatMap fun root => matcher.among (Scannable.tokens root {})).head? := by
  induction roots with
  | nil => rfl
  | cons root rest ih =>
    rw [firstAfter, Traced.result_bind_of_ok (result_scan_root root)]
    dsimp only
    rw [Traced.result_bind_of_ok (Scan.result_resultOf _ _ _),
      Query.resultAt_zero_of_ender rfl rfl, Scan.first_of_take_one, List.flatMap_cons,
      List.head?_append]
    have matched :
        (({ matcher } : Filter).withLimit 1).terminate.matched (Scannable.tokens root {}) =
          matcher.among (Scannable.tokens root {}) := rfl
    rw [matched]
    cases (matcher.among (Scannable.tokens root {})).head? with
    | none => exact ih
    | some handle => rfl

theorem result_getObject {query : ObjectQuery} {matcher : Matcher} (resolver : Resolver)
    (sources : List Source) (reads : spec.toQuery = .ok query)
    (compiles : query.criteria.compile = .ok matcher) :
    (resolver.getObject sources spec).result =
      .ok (resolver.definitions (resolver.normalize query.objectType) query sources).head? := by
  rw [getObject, Traced.result_bind_of_ok (result_prepare reads compiles)]
  dsimp only
  rw [result_firstAfter, flatMap_rootsOf _ _ _ (accepts_iff_defines compiles)]

theorem result_objectMap {found : List Handle}
    (all : (resolver.allObjects sources spec).result = .ok found) :
    (resolver.objectMap sources spec).result =
      .ok (Entries.collected (fun handle => handle.token.arg? 0) found) := by
  rw [objectMap, Traced.result_bind_of_ok all]
  refine congrArg Except.ok (congrArg (found.foldl · []) ?_)
  -- Both steps go by the identifier, but only once it is known do they reduce to one term.
  funext entries handle
  dsimp only
  cases handle.token.arg? 0 with
  | none => rfl
  | some id => rfl

private theorem exists_root_of_heads (here : source ∈ sources)
    (headed : resolver.Heads tags source) :
    ∃ root ∈ resolver.rootsOf tags sources, source.root? = some root := by
  obtain ⟨root, found, _⟩ := root?_isSome_of_heads headed
  have kept : source ∈ sources.filter fun source => resolver.isHeader tags source.sequence :=
    List.mem_filter.mpr ⟨here, isHeader_eq_true_iff.mpr headed⟩
  exact ⟨root, List.mem_filterMap.mpr ⟨source, kept, found⟩, found⟩

/-- The answers of the lookups come from one list of definitions: the first answer is its head, and
the entries are its identifiers with the last definition of each. -/
structure Agree (roots found : List Handle) (first : Option Handle)
    (entries : List (String × Handle)) : Prop where
  first : first = found.head?
  keys_once : (entries.map (·.1)).Nodup
  keys : ∀ id, id ∈ entries.map (·.1) ↔ ∃ handle ∈ found, handle.token.arg? 0 = some id
  last : ∀ id, entries.lookup id =
    (found.filter fun handle => handle.token.arg? 0 = some id).getLast?
  identified : ∀ handle ∈ found, ∃ id, handle.token.arg? 0 = some id
  headed : ∀ handle ∈ found, ∃ root ∈ roots, handle.source.root? = some root

/-- The lookups fail together, whatever the sources are, and only for what is wrong with the query;
else they all succeed and agree. -/
theorem lookups_agree (resolver : Resolver) (spec : ObjectSpec) :
    (∃ error, spec.Fails error ∧ ∀ sources,
      (resolver.getObject sources spec).result = .error error ∧
      (resolver.allObjects sources spec).result = .error error ∧
      (resolver.objectMap sources spec).result = .error error) ∨
    (∀ error, ¬ spec.Fails error) ∧ ∃ query, spec.toQuery = .ok query ∧ ∀ sources,
      ∃ first found entries,
        (resolver.getObject sources spec).result = .ok first ∧
        (resolver.allObjects sources spec).result = .ok found ∧
        (resolver.objectMap sources spec).result = .ok entries ∧
        Agree (resolver.headers sources query.objectType) found first entries := by
  rcases spec.fails_or_compiles with ⟨error, fails⟩ | ⟨query, matcher, reads, compiles⟩
  · refine .inl ⟨error, fails, fun sources => ?_⟩
    have prepared := result_prepare_of_fails resolver fails
    have all : (resolver.allObjects sources spec).result = .error error :=
      Traced.result_bind_of_error prepared
    exact ⟨Traced.result_bind_of_error prepared, all, Traced.result_bind_of_error all⟩
  · have sound : ∀ error, ¬ spec.Fails error := by
      intro error fails
      cases (result_prepare reads compiles).symm.trans (result_prepare_of_fails resolver fails)
    refine .inr ⟨sound, query, reads, fun sources => ?_⟩
    have all := result_allObjects resolver sources reads compiles
    have get := result_getObject resolver sources reads compiles
    refine ⟨_, _, _, get, all, result_objectMap all, ?_⟩
    refine ⟨rfl, Entries.nodup_map_fst_collected _ _, fun _ => Entries.mem_map_fst_collected,
      Entries.lookup_collected _ _, ?_, ?_⟩
    · intro handle member
      obtain ⟨_, defined⟩ := mem_definitions_iff.mp member
      exact defined.defines.exists_arg?_zero
    · intro handle member
      obtain ⟨here, defined⟩ := mem_definitions_iff.mp member
      exact exists_root_of_heads here defined.headed

private def metals : Source :=
  ⟨0, 0, ⟨"metals", [⟨"OBJECT", ["INORGANIC"]⟩, ⟨"INORGANIC", ["IRON"]⟩, ⟨"INORGANIC", ["GOLD"]⟩]⟩⟩

private def stones : Source :=
  ⟨0, 1, ⟨"stones", [⟨"OBJECT", ["INORGANIC"]⟩, .bare "INORGANIC", ⟨"INORGANIC", ["IRON"]⟩]⟩⟩

/-- Of an object defined in two sources the first definition is looked up, and the last is
entered. -/
theorem lookups_of_iron :
    ∃ entries,
      (standard.getObject [metals, stones] (.shorthand "INORGANIC:IRON")).result =
        .ok (some ⟨metals, 1, by decide⟩) ∧
      (standard.objectMap [metals, stones] (.shorthand "INORGANIC:IRON")).result = .ok entries ∧
      entries.lookup "IRON" = some ⟨stones, 2, by decide⟩ := by
  have all : (standard.allObjects [metals, stones] (.shorthand "INORGANIC:IRON")).result =
      .ok [⟨metals, 1, by decide⟩, ⟨stones, 2, by decide⟩] := by decide
  rcases lookups_agree standard (.shorthand "INORGANIC:IRON") with
    ⟨error, _, failed⟩ | ⟨_, query, _, answered⟩
  · cases all.symm.trans (failed [metals, stones]).2.1
  · obtain ⟨first, found, entries, get, same, map, agree⟩ := answered [metals, stones]
    obtain rfl := Except.ok.inj (all.symm.trans same)
    refine ⟨entries, get.trans (congrArg _ agree.first), map, (agree.last "IRON").trans ?_⟩
    decide

end Resolver

end TokenQuery
