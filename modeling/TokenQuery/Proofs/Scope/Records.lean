import Mathlib.Data.List.Nodup
import TokenQuery.Proofs.Scan.Answers
import TokenQuery.Proofs.Scope.Boundary
import TokenQuery.Proofs.Traversal.Full

/-!
The records of a source: the tokens that one boundary accepts, each with its properties. Main
statement: where no category is named like an item, the records that belong to the boundary of one
of their owners make up the source from the first owner on, and the reversed properties of an owner
are those of the owner before it (`records_of_boundary`).
-/

set_option autoImplicit false

namespace TokenQuery

namespace Matcher

variable {boundary : Matcher} {handles later middle : List Handle} {owner next : Handle} {j : Nat}

private theorem stretch_of_first (free : ∀ handle ∈ middle, boundary.accepts handle.token = false)
    (ends : boundary.accepts next.token = true) :
    boundary.stretch (middle ++ next :: later) = middle := by
  unfold stretch
  rw [List.takeWhile_append_of_pos fun handle member => by simp [free handle member],
    List.takeWhile_cons_of_neg (by simp [ends]), List.append_nil]

private theorem stretch_of_free (free : ∀ handle ∈ handles, boundary.accepts handle.token = false) :
    boundary.stretch handles = handles :=
  List.takeWhile_eq_self_iff.mpr fun handle member => by simp [free handle member]

private theorem exists_split_of_among_eq_append {found rest : List Handle}
    (split : boundary.among handles = found ++ owner :: rest) :
    ∃ earlier later, handles = earlier ++ owner :: later ∧
      boundary.accepts owner.token = true ∧ boundary.among later = rest := by
  obtain ⟨front, back, rfl, _, behind⟩ := List.filter_eq_append_iff.mp split
  obtain ⟨skipped, later, rfl, _, accepted, remaining⟩ := List.filter_eq_cons_iff.mp behind
  exact ⟨front ++ skipped, later, (List.append_assoc ..).symm, accepted, remaining⟩

private theorem exists_split_of_consecutive (here : (boundary.among handles)[j]? = some owner)
    (there : (boundary.among handles)[j + 1]? = some next) :
    ∃ earlier middle later, handles = earlier ++ owner :: (middle ++ next :: later) ∧
      boundary.accepts owner.token = true ∧ boundary.accepts next.token = true ∧
      ∀ handle ∈ middle, boundary.accepts handle.token = false := by
  obtain ⟨inside, rfl⟩ := List.getElem?_eq_some_iff.mp here
  obtain ⟨inside', rfl⟩ := List.getElem?_eq_some_iff.mp there
  have split : boundary.among handles = (boundary.among handles).take j ++
      (boundary.among handles)[j] :: (boundary.among handles).drop (j + 1) := by
    rw [← List.drop_eq_getElem_cons inside, List.take_append_drop]
  obtain ⟨earlier, behind, whole, accepted, remaining⟩ := exists_split_of_among_eq_append split
  rw [List.drop_eq_getElem_cons inside'] at remaining
  obtain ⟨middle, later, rfl, free, accepted', _⟩ := List.filter_eq_cons_iff.mp remaining
  exact ⟨earlier, middle, later, whole, accepted, accepted',
    fun handle member => Bool.eq_false_iff.mpr (free handle member)⟩

private theorem exists_split_of_last (last : (boundary.among handles).getLast? = some owner) :
    ∃ earlier later, handles = earlier ++ owner :: later ∧
      boundary.accepts owner.token = true ∧
      ∀ handle ∈ later, boundary.accepts handle.token = false := by
  obtain ⟨found, split⟩ := List.getLast?_eq_some_iff.mp last
  obtain ⟨earlier, later, whole, accepted, remaining⟩ := exists_split_of_among_eq_append split
  exact ⟨earlier, later, whole, accepted, among_eq_nil_iff.mp remaining⟩

end Matcher

/-- The tokens of a source strictly between two indexes. -/
def Source.between (source : Source) (start stop : Nat) : List Handle :=
  (source.handles.take stop).drop (start + 1)

namespace Props

variable {ender : Matcher}

/-- The owner, and every property of it. -/
def record (props : Props) : Traced (List Handle) := do return props.owner :: (← props.tokens)

theorem result_tokens (props : Props) (compiled : props.boundary.compile = .ok ender)
    (accepted : props.traversal.check = .ok ()) :
    props.tokens.result =
      .ok (ender.stretch (Scannable.tokens props.owner props.traversal)) :=
  (Scan.result_asked (·.before props.boundary) accepted).trans (Scan.result_before compiled)

theorem sublist_of_tokens {props : Props} {properties : List Handle}
    (answered : props.tokens.result = .ok properties) :
    properties.Sublist (Scannable.tokens props.owner props.traversal) := by
  obtain ⟨ender, compiled⟩ := props.rules.exists_compile_boundary props.owner.token
  obtain ⟨scan, passed, _⟩ := Traced.result_bind_eq_ok_iff.mp answered
  obtain ⟨accepted, _⟩ := pass_eq_ok_iff.mp (Scan.of_eq_ok_iff.mp passed)
  obtain rfl := Except.ok.inj ((result_tokens props compiled accepted).symm.trans answered)
  exact (ender.stretch_prefix _).sublist

theorem result_tokens_forward {owner : Handle} {rules : ScopeRules}
    (compiled : (rules.boundary owner.token).compile = .ok ender) :
    ({ owner, rules } : Props).tokens.result = .ok (ender.stretch owner.after) := by
  rw [result_tokens { owner, rules } compiled rfl, Handle.tokens_eq]
  rfl

private theorem result_tokens_reversed {owner : Handle} {rules : ScopeRules}
    (compiled : (rules.boundary owner.token).compile = .ok ender) :
    ({ owner, rules, traversal := { reverse := true } } : Props).tokens.result =
      .ok (ender.stretch owner.before.reverse) := by
  rw [result_tokens { owner, rules, traversal := { reverse := true } } compiled rfl,
    Handle.tokens_eq]
  rfl

private theorem result_record {owner : Handle} {rules : ScopeRules}
    (compiled : (rules.boundary owner.token).compile = .ok ender) :
    ({ owner, rules } : Props).record.result = .ok (owner :: ender.stretch owner.after) :=
  Traced.result_bind_of_ok (result_tokens_forward compiled)

end Props

namespace ScopeRules

variable {rules : ScopeRules} {ender : Matcher} {source : Source} {token : Token}
  {earlier later middle : List Handle} {owner next : Handle}

/-- The records of one boundary in a source. Between two owners that follow each other stand the
properties of the first, which are the reversed properties of the second, and the last record runs
to the end. The records together are the source from the first owner on, each token once. -/
structure Records (rules : ScopeRules) (ender : Matcher) (source : Source) : Prop where
  forward : ∀ j owner next, (ender.among source.handles)[j]? = some owner →
    (ender.among source.handles)[j + 1]? = some next →
    ({ owner, rules } : Props).tokens.result = .ok (source.between owner.index next.index)
  reversed : ∀ j owner next, (ender.among source.handles)[j]? = some owner →
    (ender.among source.handles)[j + 1]? = some next →
    ({ owner := next, rules, traversal := { reverse := true } } : Props).tokens.result =
      .ok (source.between owner.index next.index).reverse
  last : ∀ owner, (ender.among source.handles).getLast? = some owner →
    ({ owner, rules } : Props).tokens.result =
      .ok (source.between owner.index source.sequence.size)
  joined : ∃ records : List (List Handle), ((ender.among source.handles).map fun owner =>
      ({ owner, rules } : Props).record.result) = records.map Except.ok ∧
    (∀ first, (ender.among source.handles).head? = some first →
      records.flatten = source.handles.drop first.index) ∧
    records.Pairwise List.Disjoint

/-- Every token that the matcher accepts has this matcher for its own boundary. -/
def Shares (rules : ScopeRules) (ender : Matcher) : Prop :=
  ∀ token, ender.accepts token = true → (rules.boundary token).compile = .ok ender

theorem shares_of_separate (separate : rules.Separate)
    (compiled : (rules.boundary token).compile = .ok ender) : rules.Shares ender := by
  intro other accepted
  rw [boundary_eq_of_ends separate ((accepts_boundary_iff compiled other).mp accepted), compiled]

/-- Where the tokens of a source are split at an owner and at the next one, the tokens between these
are the properties of the owner, and in reverse those of the next one. -/
private theorem tokens_between (shares : rules.Shares ender)
    (whole : source.handles = earlier ++ owner :: (middle ++ next :: later))
    (accepted : ender.accepts owner.token = true) (accepted' : ender.accepts next.token = true)
    (free : ∀ handle ∈ middle, ender.accepts handle.token = false) :
    source.between owner.index next.index = middle ∧
      ({ owner, rules } : Props).tokens.result = .ok middle ∧
      ({ owner := next, rules, traversal := { reverse := true } } : Props).tokens.result =
        .ok middle.reverse := by
  obtain ⟨home, before, after⟩ := Handle.of_handles_eq whole
  have whole' : source.handles = (earlier ++ owner :: middle) ++ next :: later := by
    rw [whole, List.append_assoc, List.cons_append]
  obtain ⟨home', before', _⟩ := Handle.of_handles_eq whole'
  refine ⟨?_, ?_, ?_⟩
  · have until_next : source.handles.take next.index = earlier ++ owner :: middle := by
      rw [← home', ← before']
      rfl
    rw [Source.between, until_next, ← owner.length_before, before, List.append_cons,
      List.drop_left']
    rw [List.length_append, List.length_singleton]
  · rw [Props.result_tokens_forward (shares _ accepted), after,
      Matcher.stretch_of_first free accepted']
  · rw [Props.result_tokens_reversed (shares _ accepted'), before', List.reverse_append,
      List.reverse_cons, List.append_assoc, List.singleton_append,
      Matcher.stretch_of_first (fun handle member => free handle (List.mem_reverse.mp member))
        accepted]

private theorem tokens_of_last (shares : rules.Shares ender)
    (whole : source.handles = earlier ++ owner :: later)
    (accepted : ender.accepts owner.token = true)
    (free : ∀ handle ∈ later, ender.accepts handle.token = false) :
    ({ owner, rules } : Props).tokens.result =
      .ok (source.between owner.index source.sequence.size) := by
  obtain ⟨home, _, after⟩ := Handle.of_handles_eq whole
  have rest : source.between owner.index source.sequence.size = later := by
    rw [Source.between, ← Source.length_handles, List.take_length, ← after, ← home]
    rfl
  rw [Props.result_tokens_forward (shares _ accepted), rest, after, Matcher.stretch_of_free free]

private theorem exists_records (shares : rules.Shares ender)
    (whole : source.handles = earlier ++ later) :
    ∃ records : List (List Handle), ((ender.among later).map fun owner =>
        ({ owner, rules } : Props).record.result) = records.map Except.ok ∧
      records.flatten = later.dropWhile fun handle => !ender.accepts handle.token := by
  -- The induction is on the tokens. Each joins the record in front of it or begins one.
  induction later generalizing earlier with
  | nil => exact ⟨[], rfl, rfl⟩
  | cons handle later ih =>
    obtain ⟨records, each, flatten⟩ := ih (whole.trans (List.append_cons ..))
    cases accepted : ender.accepts handle.token with
    | false =>
      refine ⟨records, ?_, ?_⟩
      · rw [Matcher.among, List.filter_cons_of_neg (by simp [accepted])]
        exact each
      · rw [flatten, List.dropWhile_cons_of_pos (by simp [accepted])]
    | true =>
      obtain ⟨_, _, after⟩ := Handle.of_handles_eq whole
      refine ⟨(handle :: ender.stretch later) :: records, ?_, ?_⟩
      · rw [Matcher.among, List.filter_cons_of_pos (by exact accepted), List.map_cons,
          Props.result_record (shares _ accepted), after, List.map_cons, ← each]
        rfl
      · rw [List.flatten_cons, flatten, List.cons_append, Matcher.stretch,
          List.takeWhile_append_dropWhile, List.dropWhile_cons_of_neg (by simp [accepted])]

private theorem dropWhile_eq_drop_index (first : (ender.among source.handles).head? = some owner) :
    (source.handles.dropWhile fun handle => !ender.accepts handle.token) =
      source.handles.drop owner.index := by
  obtain ⟨rest, split⟩ := List.head?_eq_some_iff.mp first
  obtain ⟨earlier, later, whole, free, accepted, _⟩ := List.filter_eq_cons_iff.mp split
  obtain ⟨_, before, _⟩ := Handle.of_handles_eq whole
  rw [← owner.length_before, before, whole, List.drop_left,
    List.dropWhile_append_of_pos fun handle member => by simpa using free handle member,
    List.dropWhile_cons_of_neg (by simp [accepted])]

/-- Where no category begins with the item prefix, as in the standard rules, the boundary of an
owner compiles, and if it accepts the owner itself, it divides the source of the owner into
records. -/
theorem records_of_boundary :
    standard.Separate ∧ ∀ rules : ScopeRules, rules.Separate → ∀ owner : Handle,
      (∃ ender, (rules.boundary owner.token).compile = .ok ender) ∧
      ∀ ender, (rules.boundary owner.token).compile = .ok ender →
        ender.accepts owner.token = true →
        owner ∈ ender.among owner.source.handles ∧ rules.Records ender owner.source := by
  refine ⟨by decide, ?_⟩
  intro rules separate owner
  refine ⟨rules.exists_compile_boundary owner.token, ?_⟩
  intro ender compiled accepted
  have shares : rules.Shares ender := shares_of_separate separate compiled
  refine ⟨List.mem_filter.mpr ⟨Source.mem_handles_iff.mpr rfl, accepted⟩, ?_, ?_, ?_, ?_⟩
  · intro j owner next here there
    obtain ⟨_, _, _, whole, accepted, accepted', free⟩ :=
      Matcher.exists_split_of_consecutive here there
    obtain ⟨between, forward, _⟩ := tokens_between shares whole accepted accepted' free
    rw [forward, between]
  · intro j owner next here there
    obtain ⟨_, _, _, whole, accepted, accepted', free⟩ :=
      Matcher.exists_split_of_consecutive here there
    obtain ⟨between, _, reversed⟩ := tokens_between shares whole accepted accepted' free
    rw [reversed, between]
  · intro owner last
    obtain ⟨_, _, whole, accepted, free⟩ := Matcher.exists_split_of_last last
    exact tokens_of_last shares whole accepted free
  · obtain ⟨records, each, flatten⟩ := exists_records shares (List.nil_append _).symm
    refine ⟨records, each, ?_, ?_⟩
    · intro first head
      rw [flatten, dropWhile_eq_drop_index head]
    · have distinct : records.flatten.Nodup := by
        rw [flatten]
        exact (Source.nodup_handles _).sublist (List.dropWhile_sublist _)
      exact (List.nodup_flatten.mp distinct).2

private def words : Source :=
  ⟨0, 0, ⟨"words",
    [.bare "NOTE", ⟨"WORD", ["a"]⟩, .bare "ITEM_B", ⟨"SYMBOL", ["c"]⟩, .bare "NOTE"]⟩⟩

private def word : Handle := ⟨words, 1, by decide⟩

private def symbol : Handle := ⟨words, 3, by decide⟩

private def category : Matcher := { name := [.oneOf ["WORD", "SYMBOL"]] }

/-- An item inside of the first of two records, and a token that belongs to none. -/
theorem records_of_categories :
    standard.Separate ∧ (standard.boundary word.token).compile = .ok category ∧
      category.accepts word.token = true ∧
      word.props.tokens.result = .ok [⟨words, 2, by decide⟩] ∧
      ({ owner := symbol, traversal := { reverse := true } } : Props).tokens.result =
        .ok [⟨words, 2, by decide⟩] ∧
      symbol.props.tokens.result = .ok [⟨words, 4, by decide⟩] := by
  have records : standard.Records category words :=
    ((records_of_boundary.2 standard (by decide) word).2 category rfl rfl).2
  refine ⟨by decide, rfl, rfl, ?_, ?_, ?_⟩
  · exact records.forward 0 word symbol rfl rfl
  · exact records.reversed 0 word symbol rfl rfl
  · exact records.last symbol rfl

end ScopeRules

end TokenQuery
