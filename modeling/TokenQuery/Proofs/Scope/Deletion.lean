import TokenQuery.Proofs.Dataset.Removal
import TokenQuery.Proofs.Scope.Records

/-!
Deleting whole records. Main statement: where no category is named like an item, an owner and its
properties are removed together with success, and every other owner of the same boundary keeps its
properties (`apply_removes_record`).
-/

set_option autoImplicit false

namespace TokenQuery

namespace Matcher

/-- The tokens before the first one that the matcher of a boundary accepts. -/
def scope (boundary : Matcher) (tokens : List Token) : List Token :=
  tokens.takeWhile fun token => !boundary.accepts token

variable {boundary : Matcher} {handles rest : List Handle} {tokens later : List Token}
  {token : Token}

private theorem map_token_stretch (boundary : Matcher) (handles : List Handle) :
    (boundary.stretch handles).map Handle.token = boundary.scope (handles.map Handle.token) := by
  rw [scope, List.takeWhile_map]
  rfl

private theorem scope_cons_of_accepts (accepted : boundary.accepts token = true) :
    boundary.scope (token :: tokens) = [] :=
  List.takeWhile_cons_of_neg (by simp [accepted])

private theorem scope_append_of_closed (closed : boundary.scope later = []) :
    boundary.scope (tokens ++ later) = boundary.scope tokens := by
  induction tokens with
  | nil => exact closed
  | cons token tokens ih =>
    unfold scope at ih ⊢
    rw [List.cons_append, List.takeWhile_cons, List.takeWhile_cons, ih]

private theorem stretch_eq_nil_of_split (split : handles = boundary.stretch handles ++ rest) :
    boundary.stretch rest = [] := by
  have longer : boundary.stretch handles ++ boundary.stretch rest <+: boundary.stretch handles := by
    refine prefix_stretch ?_ ?_
    · conv =>
        rhs
        rw [split]
      exact (List.prefix_append_right_inj _).mpr (boundary.stretch_prefix rest)
    · intro handle member
      rcases List.mem_append.mp member with member | member <;>
        exact refused_of_mem_stretch member
  have bound := longer.length_le
  rw [List.length_append] at bound
  exact List.eq_nil_of_length_eq_zero (by omega)

end Matcher

private theorem Source.exists_handle_of_tokens_eq (source : Source) {front tail : List Token}
    {token : Token} (split : source.sequence.tokens = front ++ token :: tail) :
    ∃ handle : Handle, handle.source = source ∧ handle.index = front.length ∧
      handle.token = token ∧ handle.after.map Handle.token = tail := by
  have listed := source.map_token_handles.trans split
  obtain ⟨earlier, behind, whole, rfl, rest⟩ := List.map_eq_append_iff.mp listed
  obtain ⟨handle, later, rfl, rfl, rfl⟩ := List.map_eq_cons_iff.mp rest
  obtain ⟨home, before, after⟩ := Handle.of_handles_eq whole
  refine ⟨handle, home, ?_, rfl, ?_⟩
  · rw [List.length_map, ← before, handle.length_before]
  · rw [after]

private theorem Source.filter_handles_of_split {source : Source} {front found behind : List Handle}
    (whole : source.handles = front ++ (found ++ behind)) :
    (source.handles.filter fun handle => !found.any (·.location = handle.location)) =
      front ++ behind := by
  have ordered := source.pairwise_index_handles
  rw [whole] at ordered
  obtain ⟨_, ordered, in_front⟩ := List.pairwise_append.mp ordered
  obtain ⟨_, _, above⟩ := List.pairwise_append.mp ordered
  -- All of these have one source, so their locations differ as their indexes do.
  have stays {handles : List Handle}
      (apart : ∀ handle ∈ handles, ∀ other ∈ found, other.index ≠ handle.index) :
      (handles.filter fun handle => !found.any (·.location = handle.location)) = handles := by
    refine List.filter_eq_self.mpr ?_
    intro handle member
    rw [Bool.not_eq_true', List.any_eq_false]
    intro other listed
    rw [decide_eq_true_iff]
    exact fun same => apart handle member other listed (congrArg Location.index same)
  have goes : (found.filter fun handle => !found.any (·.location = handle.location)) = [] := by
    refine List.filter_eq_nil_iff.mpr ?_
    intro handle member
    rw [Bool.not_eq_true', Bool.not_eq_false, List.any_eq_true]
    exact ⟨handle, member, decide_eq_true rfl⟩
  rw [whole, List.filter_append, List.filter_append, goes, List.nil_append]
  congr 1
  · refine stays ?_
    intro handle member other listed
    exact (Nat.ne_of_lt (in_front handle member other (List.mem_append_left _ listed))).symm
  · refine stays ?_
    intro handle member other listed
    exact Nat.ne_of_lt (above other listed handle member)

namespace Handle

/-- The source of a token without it and without the given number of tokens after it. -/
def cut (owner : Handle) (count : Nat) : Source :=
  { owner.source with
    sequence :=
      ⟨owner.source.sequence.name,
        owner.before.map token ++ (owner.after.drop count).map token⟩ }

variable {owner : Handle} {found properties rest : List Handle}

private theorem handles_eq_of_after (split : owner.after = properties ++ rest) :
    owner.source.handles = owner.before ++ (owner :: properties ++ rest) := by
  rw [List.cons_append, ← split, owner.before_append_cons_after]

private theorem apply_removals_cut (split : owner.after = properties ++ rest)
    (perm : found.Perm (owner :: properties)) :
    (owner.source.sequence.apply (found.map (·.edit .remove))).result =
      .ok (properties.length + 1, (owner.cut properties.length).sequence) := by
  have whole := handles_eq_of_after split
  have own : found ⊆ owner.source.handles := by
    intro handle member
    rw [whole]
    exact List.mem_append_right _ (List.mem_append_left _ (perm.subset member))
  have named (handle : Handle) : found.any (·.location = handle.location) =
      (owner :: properties).any (·.location = handle.location) := perm.any_eq
  have left := owner.source.map_token_handles_rewritten found
  simp only [named] at left
  rw [Source.filter_handles_of_split whole, Source.map_token_handles, List.map_append] at left
  rw [Source.apply_removals own, perm.length_eq, cut, split, List.drop_left, ← left]
  rfl

end Handle

namespace ScopeRules

variable {rules : ScopeRules} {ender : Matcher} {owner other moved : Handle}
  {properties rest : List Handle}

/-- Two tokens that are equal, and whose properties are equal one by one. -/
structure SameRecord (rules : ScopeRules) (one other : Handle) : Prop where
  token : other.token = one.token
  properties : ∃ here there, ({ owner := one, rules } : Props).tokens.result = .ok here ∧
    ({ owner := other, rules } : Props).tokens.result = .ok there ∧
    there.map Handle.token = here.map Handle.token

private theorem sameRecord_of_scope_eq (shares : rules.Shares ender)
    (accepted : ender.accepts other.token = true) (token : moved.token = other.token)
    (scope : ender.scope (moved.after.map Handle.token) =
      ender.scope (other.after.map Handle.token)) :
    rules.SameRecord other moved := by
  have accepted' : ender.accepts moved.token = true := by rw [token, accepted]
  refine ⟨token, _, _, Props.result_tokens_forward (shares _ accepted),
    Props.result_tokens_forward (shares _ accepted'), ?_⟩
  rw [Matcher.map_token_stretch, Matcher.map_token_stretch, scope]

/-- An owner in front of a deleted record stays where it is. Its scope ends in front of the deleted
record, and after the deletion in front of what followed the record, which is a boundary or the end
of the sequence. -/
private theorem exists_moved_before (shares : rules.Shares ender)
    (accepted : ender.accepts owner.token = true) (split : owner.after = properties ++ rest)
    (closed : ender.scope (rest.map Handle.token) = [])
    (accepted' : ender.accepts other.token = true) (member : other ∈ owner.before) :
    ∃ moved : Handle, moved.source = owner.cut properties.length ∧
      moved.index = other.index ∧ other.index < owner.index ∧ rules.SameRecord other moved := by
  obtain ⟨earlier, middle, front⟩ := List.mem_iff_append.mp member
  have whole : owner.source.handles = earlier ++ other :: (middle ++ owner :: owner.after) := by
    rw [← owner.before_append_cons_after, front, List.append_assoc, List.cons_append]
  obtain ⟨_, before, after⟩ := Handle.of_handles_eq whole
  have left : (owner.cut properties.length).sequence.tokens = earlier.map Handle.token ++
      other.token :: (middle.map Handle.token ++ rest.map Handle.token) := by
    simp only [Handle.cut, front, split, List.drop_left, List.map_append, List.map_cons,
      List.append_assoc, List.cons_append]
  obtain ⟨moved, home, index, token, tail⟩ := Source.exists_handle_of_tokens_eq _ left
  refine ⟨moved, home, ?_, ?_, sameRecord_of_scope_eq shares accepted' token ?_⟩
  · rw [index, List.length_map, ← before, other.length_before]
  · rw [← other.length_before, ← owner.length_before, before, front]
    simp
  · rw [tail, after, List.map_append, List.map_cons, Matcher.scope_append_of_closed closed,
      Matcher.scope_append_of_closed (Matcher.scope_cons_of_accepts accepted)]

/-- An owner behind a deleted record moves down by the length of the record, with all that follows
it. -/
private theorem exists_moved_after (shares : rules.Shares ender)
    (split : owner.after = properties ++ rest)
    (accepted' : ender.accepts other.token = true) (member : other ∈ rest) :
    ∃ moved : Handle, moved.source = owner.cut properties.length ∧
      moved.index = other.index - (properties.length + 1) ∧ owner.index < other.index ∧
      rules.SameRecord other moved := by
  obtain ⟨middle, later, behind⟩ := List.mem_iff_append.mp member
  have whole : owner.source.handles =
      (owner.before ++ (owner :: properties ++ middle)) ++ other :: later := by
    rw [Handle.handles_eq_of_after split, behind]
    simp only [List.append_assoc, List.cons_append]
  obtain ⟨_, before, after⟩ := Handle.of_handles_eq whole
  have left : (owner.cut properties.length).sequence.tokens =
      (owner.before.map Handle.token ++ middle.map Handle.token) ++
        other.token :: later.map Handle.token := by
    simp only [Handle.cut, behind, split, List.drop_left, List.map_append, List.map_cons,
      List.append_assoc]
  have position : other.index = owner.index + (properties.length + 1 + middle.length) := by
    rw [← other.length_before, ← owner.length_before, before, List.length_append,
      List.length_append, List.length_cons]
  obtain ⟨moved, home, index, token, tail⟩ := Source.exists_handle_of_tokens_eq _ left
  refine ⟨moved, home, ?_, ?_, sameRecord_of_scope_eq shares accepted' token ?_⟩
  · rw [index, List.length_append, List.length_map, List.length_map, owner.length_before]
    omega
  · omega
  · rw [tail, after]

/-- Where no category begins with the item prefix, an owner that its own boundary accepts is removed
together with its properties, in any order, and nothing else is removed. Every other owner of the
boundary keeps its properties; those behind move down by the length of the removed record. -/
theorem apply_removes_record (separate : rules.Separate) (owner : Handle) :
    ∃ ender properties, (rules.boundary owner.token).compile = .ok ender ∧
      ({ owner, rules } : Props).tokens.result = .ok properties ∧
      (ender.accepts owner.token = true →
        (∀ found : List Handle, found.Perm (owner :: properties) →
          (owner.source.sequence.apply (found.map (·.edit .remove))).result =
            .ok (properties.length + 1, (owner.cut properties.length).sequence)) ∧
        ∀ other ∈ ender.among owner.source.handles, other ≠ owner →
          ∃ moved : Handle, moved.source = owner.cut properties.length ∧
            moved.index =
              (if other.index < owner.index then other.index
              else other.index - (properties.length + 1)) ∧
            rules.SameRecord other moved) := by
  obtain ⟨ender, compiled⟩ := rules.exists_compile_boundary owner.token
  obtain ⟨rest, split⟩ := ender.stretch_prefix owner.after
  refine ⟨ender, _, compiled, Props.result_tokens_forward compiled, ?_⟩
  intro accepted
  have shares : rules.Shares ender := shares_of_separate separate compiled
  -- What follows the record is a boundary or the end, so a scope in front does not run on into it.
  have closed : ender.scope (rest.map Handle.token) = [] := by
    rw [← Matcher.map_token_stretch, Matcher.stretch_eq_nil_of_split split.symm, List.map_nil]
  refine ⟨fun found perm => Handle.apply_removals_cut split.symm perm, ?_⟩
  intro other member differs
  obtain ⟨listed, accepted'⟩ := List.mem_filter.mp member
  rw [Handle.handles_eq_of_after split.symm, List.mem_append, List.cons_append, List.mem_cons,
    List.mem_append] at listed
  rcases listed with front | same | property | behind
  · obtain ⟨moved, home, index, lower, keeps⟩ :=
      exists_moved_before shares accepted split.symm closed accepted' front
    exact ⟨moved, home, by rw [index, if_pos lower], keeps⟩
  · exact absurd same differs
  · rw [Matcher.refused_of_mem_stretch property] at accepted'
    cases accepted'
  · obtain ⟨moved, home, index, higher, keeps⟩ :=
      exists_moved_after shares split.symm accepted' behind
    exact ⟨moved, home, by rw [index, if_neg (Nat.lt_asymm higher)], keeps⟩

private def lexicon : Source :=
  ⟨0, 0, ⟨"lexicon",
    [.bare "NOTE", ⟨"WORD", ["a"]⟩, .bare "X", ⟨"SYMBOL", ["c"]⟩, .bare "Y", ⟨"WORD", ["d"]⟩,
      .bare "X"]⟩⟩

private def entry : Handle := ⟨lexicon, 3, by decide⟩

private def shortened : Source :=
  ⟨0, 0, ⟨"lexicon",
    [.bare "NOTE", ⟨"WORD", ["a"]⟩, .bare "X", ⟨"WORD", ["d"]⟩, .bare "X"]⟩⟩

/-- The record between two others, removed from its end. -/
theorem apply_removes_entry :
    standard.Separate ∧ ∃ ender, (standard.boundary entry.token).compile = .ok ender ∧
      ender.accepts entry.token = true ∧
      (lexicon.sequence.apply [⟨⟨"lexicon", 4⟩, .remove⟩, ⟨⟨"lexicon", 3⟩, .remove⟩]).result =
        .ok (2, shortened.sequence) ∧
      standard.SameRecord ⟨lexicon, 1, by decide⟩ ⟨shortened, 1, by decide⟩ ∧
      standard.SameRecord ⟨lexicon, 5, by decide⟩ ⟨shortened, 3, by decide⟩ := by
  have separate : standard.Separate := by decide
  obtain ⟨ender, properties, compiled, tokens, deletes⟩ := apply_removes_record separate entry
  have known : ({ owner := entry, rules := standard } : Props).tokens.result =
      .ok [⟨lexicon, 4, by decide⟩] := by decide
  obtain rfl := Except.ok.inj (known.symm.trans tokens)
  have boundary : (standard.boundary entry.token).compile =
      .ok { name := [.oneOf ["WORD", "SYMBOL"]] } := rfl
  obtain rfl := Except.ok.inj (boundary.symm.trans compiled)
  obtain ⟨applied, keeps⟩ := deletes rfl
  refine ⟨separate, _, compiled, rfl, applied _ (.swap _ _ _), ?_, ?_⟩
  · obtain ⟨⟨_, _, _⟩, rfl, rfl, same⟩ := keeps ⟨lexicon, 1, by decide⟩ (by decide) (by decide)
    exact same
  · obtain ⟨⟨_, _, _⟩, rfl, rfl, same⟩ := keeps ⟨lexicon, 5, by decide⟩ (by decide) (by decide)
    exact same

end ScopeRules

end TokenQuery
