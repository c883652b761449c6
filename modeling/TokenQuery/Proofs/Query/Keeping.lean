import TokenQuery.Query

/-!
What a filter keeps of the tokens it is shown: its first matches, as many as its limit allows.
Main statement: showing one more token to filters that hold what they keep of the tokens before it
leaves them holding what they keep of the tokens up to it, except behind the first filter that stops
on that token (`offer_holding`).
-/

set_option autoImplicit false

namespace TokenQuery

namespace Filter

/-- The matches of a filter among some tokens, in their order. -/
def matched (filter : Filter) (seen : List Handle) : List Handle :=
  seen.filter fun handle => filter.matcher.accepts handle.token

/-- The first matches, as many as the limit allows. -/
def kept (filter : Filter) (seen : List Handle) : List Handle :=
  match filter.limit with
  | none => filter.matched seen
  | some limit => (filter.matched seen).take limit

/-- The filter with what it keeps of some tokens for its matches. -/
def holding (filter : Filter) (seen : List Handle) : Filter :=
  { filter with result := (filter.kept seen).toArray }

/-- The token after `seen` is the match with which a terminating filter reaches its limit. -/
def stopsOn (filter : Filter) (seen : List Handle) (handle : Handle) : Bool :=
  filter.terminating && filter.matcher.accepts handle.token &&
    filter.limit == some ((filter.matched seen).length + 1)

variable {filter : Filter} {seen : List Handle} {handle : Handle}

@[simp] theorem holding_matcher : (filter.holding seen).matcher = filter.matcher := rfl

@[simp] theorem holding_limit : (filter.holding seen).limit = filter.limit := rfl

@[simp] theorem holding_terminating :
    (filter.holding seen).terminating = filter.terminating := rfl

@[simp] theorem holding_result : (filter.holding seen).result = (filter.kept seen).toArray := rfl

@[simp] theorem kept_nil : filter.kept [] = [] := by
  unfold kept matched
  split <;> simp

theorem cleared_eq_holding_nil (filter : Filter) : filter.cleared = filter.holding [] := by
  simp [cleared, holding]

theorem matched_append_singleton :
    filter.matched (seen ++ [handle]) =
      if filter.matcher.accepts handle.token then filter.matched seen ++ [handle]
      else filter.matched seen := by
  unfold matched
  rw [List.filter_append]
  split <;> simp_all

theorem kept_of_limit_none (h : filter.limit = none) : filter.kept seen = filter.matched seen := by
  simp [kept, h]

theorem kept_of_limit_some {limit : Nat} (h : filter.limit = some limit) :
    filter.kept seen = (filter.matched seen).take limit := by
  simp [kept, h]

theorem kept_sublist (filter : Filter) (seen : List Handle) :
    (filter.kept seen).Sublist seen := by
  have h : (filter.matched seen).Sublist seen := List.filter_sublist
  unfold kept
  split
  · exact h
  · exact (List.take_sublist _ _).trans h

private theorem holding_saturated_iff :
    (filter.holding seen).saturated = true ↔
      ∃ limit, filter.limit = some limit ∧ limit ≤ (filter.matched seen).length := by
  cases h : filter.limit with
  | none => simp [saturated, h]
  | some limit =>
    simp only [saturated, holding_limit, h, holding_result, kept_of_limit_some h, Option.any_some,
      List.size_toArray, List.length_take, decide_eq_true_eq, Option.some.injEq]
    constructor
    · intro full
      exact ⟨limit, rfl, by omega⟩
    · rintro ⟨_, rfl, full⟩
      omega

theorem holding_append_of_saturated (h : (filter.holding seen).saturated = true)
    (handle : Handle) :
    filter.holding (seen ++ [handle]) = filter.holding seen := by
  obtain ⟨limit, bound, full⟩ := holding_saturated_iff.mp h
  have same : filter.kept (seen ++ [handle]) = filter.kept seen := by
    rw [kept_of_limit_some bound, kept_of_limit_some bound, matched_append_singleton]
    split
    · rw [List.take_append_of_le_length full]
    · rfl
  simp only [holding, same]

private theorem stopsOn_of_saturated (h : (filter.holding seen).saturated = true) :
    filter.stopsOn seen handle = false := by
  obtain ⟨limit, bound, full⟩ := holding_saturated_iff.mp h
  have other : limit ≠ (filter.matched seen).length + 1 := by omega
  simp [stopsOn, bound, other]

private theorem length_matched_lt (h : (filter.holding seen).saturated = false) {limit : Nat}
    (bound : filter.limit = some limit) : (filter.matched seen).length < limit := by
  rcases Nat.lt_or_ge (filter.matched seen).length limit with room | full
  · exact room
  · rw [holding_saturated_iff.mpr ⟨limit, bound, full⟩] at h
    cases h

theorem kept_of_not_saturated (h : (filter.holding seen).saturated = false) :
    filter.kept seen = filter.matched seen := by
  cases bound : filter.limit with
  | none => exact kept_of_limit_none bound
  | some limit =>
    have room := length_matched_lt h bound
    rw [kept_of_limit_some bound, List.take_of_length_le (Nat.le_of_lt room)]

theorem kept_append_of_not_saturated (h : (filter.holding seen).saturated = false)
    (handle : Handle) : filter.kept (seen ++ [handle]) = filter.matched (seen ++ [handle]) := by
  cases bound : filter.limit with
  | none => exact kept_of_limit_none bound
  | some limit =>
    have room := length_matched_lt h bound
    have fits : (filter.matched (seen ++ [handle])).length ≤ limit := by
      rw [matched_append_singleton]
      split
      · rw [List.length_append, List.length_singleton]; omega
      · omega
    rw [kept_of_limit_some bound, List.take_of_length_le fits]

private theorem offered_holding (h : (filter.holding seen).saturated = false) :
    (filter.holding seen).offered handle = filter.holding (seen ++ [handle]) := by
  have after := kept_append_of_not_saturated h handle
  rw [matched_append_singleton] at after
  unfold offered
  rw [holding_matcher]
  split
  · rename_i accepted
    rw [if_pos accepted] at after
    simp only [holding, after, kept_of_not_saturated h, List.push_toArray]
  · rename_i refused
    rw [if_neg refused] at after
    simp only [holding, after, kept_of_not_saturated h]

/-- A terminating filter that was not saturated has reached its limit exactly if it stops on the
token it was shown. The limit cannot be reached by a token that is no match. -/
private theorem terminating_and_reachedLimit (h : (filter.holding seen).saturated = false) :
    ((filter.holding (seen ++ [handle])).terminating &&
      (filter.holding (seen ++ [handle])).reachedLimit) = filter.stopsOn seen handle := by
  unfold reachedLimit stopsOn
  rw [holding_terminating, holding_limit, holding_result, kept_append_of_not_saturated h handle,
    List.size_toArray, matched_append_singleton]
  cases accepted : filter.matcher.accepts handle.token with
  | true => simp
  | false =>
    have unreached : (filter.limit == some (filter.matched seen).length) = false := by
      cases bound : filter.limit with
      | none => rfl
      | some limit =>
        have room := length_matched_lt h bound
        have other : limit ≠ (filter.matched seen).length := by omega
        simp [other]
    simp [unreached]

end Filter

namespace Query

/-- Filters that hold what they keep of the tokens before are shown one more. If none of them stops
on it, all of them keep it with the rest. Else those up to the first that stops do, and those behind
it are left as they were. -/
theorem offer_holding (filters : List Filter) (seen : List Handle) (handle : Handle)
    (position : Nat) :
    offer handle position (filters.map (·.holding seen)) =
      match filters.findIdx? (·.stopsOn seen handle) with
      | none => (filters.map (·.holding (seen ++ [handle])), none)
      | some j =>
        (filters.mapIdx fun p filter => filter.holding (if p ≤ j then seen ++ [handle] else seen),
          some (position + j)) := by
  induction filters generalizing position with
  | nil => rfl
  | cons filter rest ih =>
    have behind (j : Nat) : position + 1 + j = position + (j + 1) := by omega
    rw [List.map_cons, offer, List.findIdx?_cons]
    cases full : (filter.holding seen).saturated with
    | true =>
      rw [if_pos rfl, ih, Filter.stopsOn_of_saturated full,
        ← Filter.holding_append_of_saturated full handle]
      cases rest.findIdx? (·.stopsOn seen handle) <;> simp [behind]
    | false =>
      simp only [Bool.false_eq_true, if_false, Filter.offered_holding full,
        Filter.terminating_and_reachedLimit full]
      cases filter.stopsOn seen handle with
      | true =>
        have unseen : rest.map (·.holding seen) =
            rest.mapIdx fun _ filter => filter.holding seen := by
          apply List.ext_getElem?
          intro p
          simp
        simp [unseen]
      | false =>
        simp only [Bool.false_eq_true, if_false, ih]
        cases rest.findIdx? (·.stopsOn seen handle) <;> simp [behind]

end Query

end TokenQuery
