import TokenQuery.Proofs.Object.Readers
import TokenQuery.Proofs.Query.Alike
import TokenQuery.Proofs.Scan.Refusal
import TokenQuery.Settings.Basic

/-!
Named queries of settings. Main statement: a name that is configured gives the error of the first
filter that is faulty as it is written, or else a new query that runs as any query does whose
filters are what is written (`query?_runs_as_written`).
-/

set_option autoImplicit false

namespace TokenQuery

/-- The specification compiles, and its matcher accepts the token. -/
def Spec.Accepts (spec : Spec) (token : Token) : Prop :=
  ∃ matcher, spec.compile = .ok matcher ∧ matcher.accepts token = true

private theorem error?_eq_some_iff {α : Type} {check : Except QueryError α} {error : QueryError} :
    error? check = some error ↔ check = .error error := by
  cases check with
  | error other => simp [error?]
  | ok a => simp [error?]

private theorem error?_eq_none_iff {α : Type} {check : Except QueryError α} :
    error? check = none ↔ ∃ a, check = .ok a := by
  cases check with
  | error error => simp [error?]
  | ok a => simp [error?]

namespace Criteria

variable {criteria : Criteria} {matcher : Matcher} {token other : Token}

private theorem error?_compile_with (criteria : Criteria) (name : Option String)
    (args : Option (List String)) :
    error? { criteria with name, args }.compile = error? criteria.compile := by
  obtain ⟨_, namePattern, nameIn, _, argTests, _, _⟩ := criteria
  simp only [compile, textTests]
  cases namePattern.isSome && nameIn.isSome with
  | true => rfl
  | false =>
    cases namePattern.toList.mapM readPattern with
    | error error => rfl
    | ok patterns =>
      cases argTests.mapM (compileTest argTests) with
      | error error => rfl
      | ok groups => rfl

private theorem holds_with_like_iff (name : criteria.name = none) (args : criteria.args = none) :
    { criteria with name := (like token).name, args := (like token).args }.Holds other ↔
      criteria.Holds other ∧ (like token).Holds other := by
  obtain ⟨_, namePattern, nameIn, _, argTests, argsCount, custom⟩ := criteria
  obtain rfl := name
  obtain rfl := args
  constructor
  · rintro ⟨⟨exact, pattern, oneOf⟩, args, argsCount, argTests, custom⟩
    exact ⟨⟨⟨nofun, pattern, oneOf⟩, nofun, argsCount, argTests, custom⟩,
      ⟨exact, nofun, nofun⟩, args, nofun, nofun, nofun⟩
  · rintro ⟨⟨⟨_, pattern, oneOf⟩, _, argsCount, argTests, custom⟩, ⟨exact, _, _⟩, args, _, _, _⟩
    exact ⟨⟨exact, pattern, oneOf⟩, args, argsCount, argTests, custom⟩

private theorem accepts_criteria_iff (compiles : ∃ matcher, criteria.compile = .ok matcher)
    (token : Token) :
    (Spec.criteria criteria).Accepts token ↔ criteria.Holds token := by
  obtain ⟨matcher, compiled⟩ := compiles
  constructor
  · rintro ⟨matcher', compiled', accepted⟩
    exact (accepts_iff_holds compiled' token).mp accepted
  · intro holds
    exact ⟨matcher, compiled, (accepts_iff_holds compiled token).mpr holds⟩

private theorem exists_like_of_parse {text : String} (reads : parse text = .ok criteria) :
    ∃ token, criteria = like token := by
  rw [parse_eq_map] at reads
  cases outcome : Token.parse text with
  | error error =>
    rw [outcome] at reads
    cases reads
  | ok token =>
    rw [outcome] at reads
    exact ⟨token, (Except.ok.inj reads).symm⟩

private theorem parse_error_of_parse {text : String} {error : QueryError}
    (refused : parse text = .error error) : ∃ cause, error = .parse cause text := by
  rw [parse, Shorthand.split] at refused
  cases read : Shorthand.read (Text.trim text.toList) with
  | error cause =>
    rw [read] at refused
    exact ⟨cause, (Except.error.inj refused).symm⟩
  | ok parts =>
    rw [read] at refused
    cases refused

private theorem accepts_shorthand_iff {text : String} (reads : parse text = .ok criteria)
    (token : Token) :
    (Spec.shorthand text).Accepts token ↔ criteria.Holds token := by
  obtain ⟨read, rfl⟩ := exists_like_of_parse reads
  have same : (Spec.shorthand text).compile = (Spec.criteria (like read)).compile := by
    rw [Spec.compile, Spec.toCriteria, reads]
    rfl
  rw [← accepts_criteria_iff (exists_compile_like read), Spec.Accepts, Spec.Accepts, same]

end Criteria

namespace FilterSpec

/-- What is wrong with the shorthand of a filter, in the order in which it is noticed: it is given
together with a name or with arguments, or it does not read. -/
def shorthandFaults (spec : FilterSpec) : List QueryError :=
  spec.shorthand.toList.flatMap fun text =>
    (if spec.criteria.name.isSome || spec.criteria.args.isSome then
      [.ambiguous (.shorthandFilter text)] else []) ++
    (error? (Criteria.parse text)).toList

/-- What is wrong with a filter as it is written, in the order in which it is noticed. -/
def faults (spec : FilterSpec) : List QueryError :=
  spec.shorthandFaults ++ (error? spec.criteria.compile).toList

/-- The filter is what is written: it matches the tokens that both the criteria and the shorthand
match, and a limit of zero is none. -/
structure Describes (spec : FilterSpec) (filter : Filter) : Prop where
  label : filter.label = spec.label
  limit : filter.limit = if spec.limit = 0 then none else some spec.limit
  terminating : filter.terminating = spec.terminating
  accepts_iff : ∀ token, filter.matcher.accepts token = true ↔
    (Spec.criteria spec.criteria).Accepts token ∧
      ∀ text ∈ spec.shorthand, (Spec.shorthand text).Accepts token

variable {spec : FilterSpec} {full : Criteria} {filter other : Filter}

private theorem error?_fullCriteria (spec : FilterSpec) :
    error? spec.fullCriteria = spec.shorthandFaults.head? := by
  obtain ⟨label, shorthand, criteria, limit, terminating⟩ := spec
  cases shorthand with
  | none => rfl
  | some text =>
    simp only [fullCriteria, shorthandFaults, Option.toList_some, List.flatMap_singleton]
    cases criteria.name.isSome || criteria.args.isSome with
    | true => rfl
    | false =>
      cases Criteria.parse text with
      | error error => rfl
      | ok read => rfl

private theorem of_fullCriteria (merged : spec.fullCriteria = .ok full) :
    error? full.compile = error? spec.criteria.compile ∧
      ∀ token, full.Holds token ↔
        spec.criteria.Holds token ∧
          ∀ text ∈ spec.shorthand, (Spec.shorthand text).Accepts token := by
  obtain ⟨label, shorthand, criteria, limit, terminating⟩ := spec
  cases shorthand with
  | none =>
    obtain rfl := Except.ok.inj merged
    exact ⟨rfl, fun token => ⟨fun holds => ⟨holds, nofun⟩, And.left⟩⟩
  | some text =>
    simp only [fullCriteria] at merged
    cases name : criteria.name with
    | some _ => simp [name, throw, throwThe, MonadExceptOf.throw, bind, Except.bind] at merged
    | none =>
      cases args : criteria.args with
      | some _ =>
        simp [name, args, throw, throwThe, MonadExceptOf.throw, bind, Except.bind] at merged
      | none =>
        simp only [name, args, Option.isSome_none, Bool.or_self, Bool.false_eq_true,
          if_false] at merged
        obtain ⟨read, reads, same⟩ := bind_eq_ok_iff.mp merged
        obtain rfl := Except.ok.inj same
        obtain ⟨token, rfl⟩ := Criteria.exists_like_of_parse reads
        refine ⟨Criteria.error?_compile_with _ _ _, fun other => ?_⟩
        rw [Criteria.holds_with_like_iff name args, ← Criteria.accepts_shorthand_iff reads]
        simp

/-- A filter fails to build with the first of its faults. -/
private theorem error?_build (spec : FilterSpec) : error? spec.build = spec.faults.head? := by
  rw [faults, List.head?_append, ← error?_fullCriteria, build]
  cases merged : spec.fullCriteria with
  | error error => rfl
  | ok full =>
    show error? (Filter.ofSpec (.criteria full) >>= fun filter => pure _) = _
    rw [error?_map, error?_ofSpec]
    show error? full.compile = _
    rw [(of_fullCriteria merged).1]
    cases error? spec.criteria.compile <;> rfl

private theorem describes_of_build (built : spec.build = .ok filter) :
    spec.Describes filter ∧ filter.result = #[] := by
  obtain ⟨full, merged, made⟩ := bind_eq_ok_iff.mp built
  obtain ⟨plain, filtered, same⟩ := bind_eq_ok_iff.mp made
  obtain ⟨matcher, compiled, same'⟩ := bind_eq_ok_iff.mp filtered
  obtain rfl := Except.ok.inj same'
  obtain rfl := Except.ok.inj same
  obtain ⟨refused, holds_iff⟩ := of_fullCriteria merged
  have compiles : ∃ own, spec.criteria.compile = .ok own := by
    rw [← error?_eq_none_iff, ← refused, error?_eq_none_iff]
    exact ⟨matcher, compiled⟩
  refine ⟨⟨rfl, rfl, rfl, fun token => ?_⟩, rfl⟩
  rw [Criteria.accepts_criteria_iff compiles, ← holds_iff]
  exact Criteria.accepts_iff_holds compiled token

private theorem exists_build_iff : (∃ filter, spec.build = .ok filter) ↔ spec.faults = [] := by
  rw [← error?_eq_none_iff, error?_build, List.head?_eq_none_iff]

theorem Describes.alike (describes : spec.Describes filter) (describes' : spec.Describes other) :
    filter.Alike other where
  label := describes.label.trans describes'.label.symm
  limit := describes.limit.trans describes'.limit.symm
  terminating := describes.terminating.trans describes'.terminating.symm
  accepts token := by
    rw [Bool.eq_iff_iff, describes.accepts_iff, describes'.accepts_iff]

end FilterSpec

namespace Settings

variable {settings : Settings} {name : String} {specs : List FilterSpec}

private theorem query?_of_lookup (found : settings.queries.lookup name = some specs) :
    settings.query? name = specs.mapM FilterSpec.build >>= fun filters => .ok (some ⟨filters⟩) := by
  rw [query?, found]
  rfl

private theorem query?_ne_none_of_lookup (found : settings.queries.lookup name = some specs) :
    settings.query? name ≠ .ok none := by
  rw [query?_of_lookup found]
  intro nothing
  obtain ⟨_, _, impossible⟩ := bind_eq_ok_iff.mp nothing
  cases impossible

private theorem query?_eq_none_iff :
    settings.query? name = .ok none ↔ name ∉ settings.queries.map (·.1) := by
  cases found : settings.queries.lookup name with
  | none =>
    have absent := List.lookup_eq_none_iff.mp found
    simp only [bne_iff_ne] at absent
    refine iff_of_true (by rw [query?, found]) ?_
    intro present
    obtain ⟨entry, member, same⟩ := List.mem_map.mp present
    exact absent entry member same.symm
  | some specs =>
    refine iff_of_false (query?_ne_none_of_lookup found) ?_
    obtain ⟨_, _, split, _⟩ := List.lookup_eq_some_iff.mp found
    rw [split]
    simp

private theorem query?_eq_error_iff (found : settings.queries.lookup name = some specs)
    {error : QueryError} :
    settings.query? name = .error error ↔
      ∃ before spec after, specs = before ++ spec :: after ∧
        (∀ earlier ∈ before, earlier.faults = []) ∧ spec.faults.head? = some error := by
  rw [query?_of_lookup found, bind_eq_error_iff, mapM_eq_error_iff]
  simp only [FilterSpec.exists_build_iff, ← FilterSpec.error?_build, error?_eq_some_iff,
    reduceCtorEq, and_false, exists_false, or_false]

private theorem exists_query?_eq_ok (found : settings.queries.lookup name = some specs)
    (sound : ∀ spec ∈ specs, spec.faults = []) :
    ∃ query, settings.query? name = .ok (some query) ∧
      List.Forall₂ (fun spec filter => spec.Describes filter ∧ filter.result = #[]) specs
        query.filters := by
  have builds : ∀ spec ∈ specs, ∃ filter, spec.build = .ok filter :=
    fun spec member => FilterSpec.exists_build_iff.mpr (sound spec member)
  obtain ⟨filters, built⟩ := exists_mapM_eq_ok_iff.mpr builds
  refine ⟨⟨filters⟩, ?_, ?_⟩
  · rw [query?_of_lookup found, built]
    rfl
  · exact (mapM_eq_ok_iff.mp built).imp fun _ _ => FilterSpec.describes_of_build

end Settings

private theorem Query.alike_of_describes {specs : List FilterSpec} {query hand : Query}
    (written : List.Forall₂ FilterSpec.Describes specs query.filters)
    (byHand : List.Forall₂ FilterSpec.Describes specs hand.filters) : query.Alike hand := by
  rw [Alike]
  generalize query.filters = filters at written
  generalize hand.filters = others at byHand
  induction written generalizing others with
  | nil =>
    obtain rfl := List.forall₂_nil_left_iff.mp byHand
    exact .nil
  | cons describes _ ih =>
    obtain ⟨other, rest, describes', others', rfl⟩ := List.forall₂_cons_left_iff.mp byHand
    exact .cons (describes.alike describes') (ih rest others')

namespace Settings

/-- A name is without a query exactly when it is not configured. A configured name gives the error
of the first of its filters that has a fault or else a query of these filters, in order and without
matches, which runs on all tokens as any query of such filters does. A filter that has a fault fails
to build with the first one: the shorthand is given together with a name or with arguments, it does
not read, or the criteria do not compile. -/
theorem query?_runs_as_written (settings : Settings) (name : String) :
    (settings.query? name = .ok none ↔ name ∉ settings.queries.map (·.1)) ∧
    (∀ specs, settings.queries.lookup name = some specs →
      (∀ error, settings.query? name = .error error ↔
        ∃ before spec after, specs = before ++ spec :: after ∧
          (∀ earlier ∈ before, earlier.faults = []) ∧ spec.faults.head? = some error) ∧
      ((∀ spec ∈ specs, spec.faults = []) →
        ∃ query, settings.query? name = .ok (some query) ∧
          List.Forall₂ (fun spec filter => spec.Describes filter ∧ filter.result = #[]) specs
            query.filters ∧
          ∀ hand : Query, List.Forall₂ FilterSpec.Describes specs hand.filters →
            ∀ handles, ∃ after after' outcome events,
              query.execute handles = ⟨.ok (after, outcome), events⟩ ∧
              hand.execute handles = ⟨.ok (after', outcome), events⟩ ∧
              after.report = after'.report ∧ after.results = after'.results)) ∧
    (∀ spec : FilterSpec,
      (∀ error, spec.build = .error error ↔ spec.faults.head? = some error) ∧
      (spec.faults = [] → ∃ filter, spec.build = .ok filter ∧ spec.Describes filter)) ∧
    ∀ text error, Criteria.parse text = .error error → ∃ cause, error = .parse cause text := by
  refine ⟨query?_eq_none_iff, ?_, ?_, ?_⟩
  · intro specs found
    refine ⟨fun error => query?_eq_error_iff found, fun sound => ?_⟩
    obtain ⟨query, given, written⟩ := exists_query?_eq_ok found sound
    refine ⟨query, given, written, fun hand byHand handles => ?_⟩
    have alike := Query.alike_of_describes (written.imp fun _ _ => And.left) byHand
    exact Query.execute_eq_of_alike alike handles
  · intro spec
    refine ⟨fun error => ?_, fun sound => ?_⟩
    · rw [← error?_eq_some_iff, FilterSpec.error?_build]
    · obtain ⟨filter, built⟩ := FilterSpec.exists_build_iff.mpr sound
      exact ⟨filter, built, (FilterSpec.describes_of_build built).1⟩
  · exact fun _ _ => Criteria.parse_error_of_parse

/-- A first filter without a limit that combines a shorthand with a set of names and a number of
arguments, and a second one that ends the run at the first `END`. -/
private def outline : List FilterSpec :=
  [{ label := some "heads", shorthand := some "[HEADER]",
     criteria := { nameIn := some ["HEADER", "NOTE"], argsCount := some 0 } },
   { criteria := { name := some "END" }, limit := 1, terminating := true }]

private def outlined : Settings := { queries := [("outline", outline)] }

private def outlineByHand : Query :=
  ⟨[{ label := some "heads",
      matcher := { name := [.exact "HEADER", .oneOf ["HEADER", "NOTE"]], argsCount := some 0 } },
    { matcher := { name := [.exact "END"] }, limit := some 1, terminating := true }]⟩

private theorem describes_outlineByHand :
    List.Forall₂ FilterSpec.Describes outline outlineByHand.filters :=
  .cons (FilterSpec.describes_of_build rfl).1 (.cons (FilterSpec.describes_of_build rfl).1 .nil)

/-- The query under the name runs as the one that is put together by hand. -/
theorem query?_runs_as_outline :
    outlined.queries.lookup "outline" = some outline ∧
    (∀ spec ∈ outline, spec.faults = []) ∧
    ∃ query, outlined.query? "outline" = .ok (some query) ∧
      ∀ handles, ∃ after after' outcome events,
        query.execute handles = ⟨.ok (after, outcome), events⟩ ∧
        outlineByHand.execute handles = ⟨.ok (after', outcome), events⟩ ∧
        after.report = after'.report ∧ after.results = after'.results := by
  have found : outlined.queries.lookup "outline" = some outline := rfl
  have sound : ∀ spec ∈ outline, spec.faults = [] :=
    List.forall_mem_cons.mpr ⟨rfl, List.forall_mem_singleton.mpr rfl⟩
  obtain ⟨query, given, _, same⟩ :=
    ((query?_runs_as_written outlined "outline").2.1 outline found).2 sound
  exact ⟨found, sound, query, given, same outlineByHand describes_outlineByHand⟩

end Settings

end TokenQuery
