import Mathlib.Logic.Function.Iterate
import TokenQuery.Proofs.Traversal.Pass

/-!
A cursor that is asked for its next index again and again. Main statements: the answers are the
indexes that the cursor yields, and nothing from then on (`answer_eq`), and at every call of a
cursor over tokens its counters are in order and its size hint is exact (`counted_at_every_call`).
-/

set_option autoImplicit false

namespace TokenQuery

namespace Cursor

/-- The cursor after a call for its next index. A call without an answer leaves it as it is. -/
def asked (cursor : Cursor) : Cursor := (cursor.next?.map (·.2)).getD cursor

/-- The cursor after some calls for its next index. -/
def afterCalls (cursor : Cursor) (calls : Nat) : Cursor := asked^[calls] cursor

/-- What a cursor answers to the next call after some calls. -/
def answer (cursor : Cursor) (calls : Nat) : Option Nat :=
  (cursor.afterCalls calls).next?.map (·.1)

/-- The counters of a cursor over a sequence of some size are in order. -/
structure Within (cursor : Cursor) (size : Nat) : Prop where
  front_le_back : cursor.front ≤ cursor.back
  back_le_size : cursor.back ≤ size

variable {cursor : Cursor} {size calls index : Nat}

private theorem afterCalls_succ : cursor.afterCalls (calls + 1) = (cursor.afterCalls calls).asked :=
  Function.iterate_succ_apply' asked calls cursor

private theorem within_span {front back : Nat} {traversal : Traversal} (ordered : front ≤ back)
    (bound : back ≤ size) : (span front back traversal).Within size where
  front_le_back := Nat.le_max_right _ _
  back_le_size := Nat.max_le.mpr ⟨bound, Nat.le_trans ordered bound⟩

theorem Within.asked (within : cursor.Within size) : cursor.asked.Within size := by
  obtain ⟨ordered, bound⟩ := within
  unfold Cursor.asked
  cases stepped : cursor.next? with
  | none => exact ⟨ordered, bound⟩
  | some yielded =>
    obtain ⟨inside, _, ends⟩ := of_next?_eq_some stepped
    rw [Option.map_some, Option.getD_some]
    split at ends
    · obtain ⟨_, front, back⟩ := ends
      constructor <;> omega
    · obtain ⟨_, front, back⟩ := ends
      constructor <;> omega

private theorem Within.afterCalls (within : cursor.Within size) (calls : Nat) :
    (cursor.afterCalls calls).Within size := by
  induction calls with
  | zero => exact within
  | succ calls ih =>
    rw [afterCalls_succ]
    exact ih.asked

private theorem head?_indexes (cursor : Cursor) :
    cursor.indexes.head? = cursor.next?.map (·.1) := by
  cases stepped : cursor.next? with
  | none =>
    rw [indexes_of_none stepped]
    rfl
  | some yielded =>
    rw [indexes_of_some stepped]
    rfl

private theorem indexes_asked (cursor : Cursor) : cursor.asked.indexes = cursor.indexes.tail := by
  unfold asked
  cases stepped : cursor.next? with
  | none =>
    rw [indexes_of_none stepped]
    exact indexes_of_none stepped
  | some yielded =>
    rw [indexes_of_some stepped]
    rfl

private theorem indexes_afterCalls (cursor : Cursor) (calls : Nat) :
    (cursor.afterCalls calls).indexes = cursor.indexes.drop calls := by
  induction calls with
  | zero => rfl
  | succ calls ih => rw [afterCalls_succ, indexes_asked, ih, List.tail_drop]

/-- The answers are the indexes that the cursor yields, in their order, and nothing after them. -/
theorem answer_eq (cursor : Cursor) (calls : Nat) :
    cursor.answer calls = cursor.indexes[calls]? := by
  rw [answer, ← head?_indexes, indexes_afterCalls, List.head?_drop]

private theorem left_afterCalls (cursor : Cursor) (calls : Nat) :
    (cursor.afterCalls calls).left = cursor.left - calls := by
  rw [← length_indexes, indexes_afterCalls, List.length_drop, length_indexes]

private theorem isSome_answer_iff : (cursor.answer calls).isSome = true ↔ calls < cursor.left := by
  simp only [answer_eq, isSome_getElem?, length_indexes]

private theorem answer_eq_none_iff : cursor.answer calls = none ↔ cursor.left ≤ calls := by
  rw [answer_eq, List.getElem?_eq_none_iff, length_indexes]

private theorem of_answer_eq_some (answered : cursor.answer calls = some index) :
    ∃ after, (cursor.afterCalls calls).next? = some (index, after) ∧
      index < (cursor.afterCalls calls).back ∧ (cursor.afterCalls calls).remaining ≠ some 0 := by
  obtain ⟨⟨_, after⟩, stepped, rfl⟩ := Option.map_eq_some_iff.mp answered
  obtain ⟨inside, _, ends⟩ := of_next?_eq_some stepped
  refine ⟨after, stepped, ?_, ?_⟩
  · split at ends <;> omega
  · intro exhausted
    simp [next?, exhausted] at stepped

end Cursor

/-- What holds at every call of a cursor over the tokens of a source. Its counters are in order, a
call that is answered lowers none of them below zero and finds a token of the source, the size hint
counts the calls that are still answered, no index comes twice, and after a call without an answer
there is none. -/
structure Counted (source : Source) (cursor : Cursor) : Prop where
  within : ∀ calls, (cursor.afterCalls calls).Within source.sequence.size
  lowers : ∀ calls, (cursor.answer calls).isSome = true →
    0 < (cursor.afterCalls calls).back ∧ (cursor.afterCalls calls).remaining ≠ some 0
  finds : ∀ calls index, cursor.answer calls = some index →
    ∃ handle, source.at? index = some handle
  sizeHint_eq : ∀ calls, ∃ count, (cursor.afterCalls calls).sizeHint = (count, some count) ∧
    ∀ more, (cursor.answer (calls + more)).isSome = true ↔ more < count
  distinct : ∀ calls later index, calls < later → cursor.answer calls = some index →
    cursor.answer later ≠ some index
  stays_none : ∀ calls later, calls ≤ later → cursor.answer calls = none →
    cursor.answer later = none

private theorem counted_of_within {source : Source} {cursor : Cursor}
    (within : cursor.Within source.sequence.size) : Counted source cursor where
  within := within.afterCalls
  lowers := by
    intro calls some_answer
    obtain ⟨index, answered⟩ := Option.isSome_iff_exists.mp some_answer
    obtain ⟨_, _, below, going⟩ := Cursor.of_answer_eq_some answered
    exact ⟨Nat.zero_lt_of_lt below, going⟩
  finds := by
    intro calls index answered
    obtain ⟨_, _, below, _⟩ := Cursor.of_answer_eq_some answered
    have inside := Nat.lt_of_lt_of_le below (within.afterCalls calls).back_le_size
    exact Option.isSome_iff_exists.mp (Source.at?_isSome.mpr inside)
  sizeHint_eq := by
    intro calls
    refine ⟨cursor.left - calls, ?_, ?_⟩
    · rw [Cursor.sizeHint, Cursor.left_afterCalls]
    · intro more
      rw [Cursor.isSome_answer_iff]
      omega
  distinct := by
    intro calls later index before first again
    rw [Cursor.answer_eq] at first again
    have inside : calls < cursor.indexes.length := (List.getElem?_eq_some_iff.mp first).1
    have same : calls = later :=
      (List.getElem?_inj inside cursor.nodup_indexes).mp (first.trans again.symm)
    omega
  stays_none := by
    intro calls later notBefore none_there
    rw [Cursor.answer_eq_none_iff] at none_there ⊢
    omega

/-- Every cursor over the tokens of a source, and every cursor over the tokens on one side of a
token, keeps its counters in order at every call, gives exact size hints, yields no index twice and
stays without an answer once it has none. -/
theorem counted_at_every_call :
    (∀ (source : Source) (traversal : Traversal), Counted source (source.cursor traversal)) ∧
    ∀ (handle : Handle) (traversal : Traversal),
      Counted handle.source (handle.cursor traversal) := by
  refine ⟨?_, ?_⟩
  · intro source traversal
    exact counted_of_within (Cursor.within_span (Nat.zero_le _) (Nat.le_refl _))
  · intro handle traversal
    refine counted_of_within ?_
    unfold Handle.cursor
    split
    · exact Cursor.within_span (Nat.zero_le _) (Nat.le_of_lt handle.index_lt)
    · exact Cursor.within_span handle.index_lt (Nat.le_refl _)

private def triple : Source := ⟨0, 0, ⟨"s", [.bare "A", .bare "B", .bare "C"]⟩⟩

private def middle : Handle := ⟨triple, 1, by decide⟩

/-- A range wider than what is left before a token ends with the first token. -/
theorem counted_before_middle :
    (middle.cursor { reverse := true, range := some 5 }).answer 0 = some 0 ∧
      ∀ later, 1 ≤ later →
        (middle.cursor { reverse := true, range := some 5 }).answer later = none := by
  have counted := counted_at_every_call.2 middle { reverse := true, range := some 5 }
  exact ⟨by decide, fun later after => counted.stays_none 1 later after (by decide)⟩

end TokenQuery
