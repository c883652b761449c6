import TokenQuery.Error
import TokenQuery.Sequence

/-!
Traversals: the direction and the length of one pass over some tokens, and the cursor that makes the
pass over a span of indexes.
-/

set_option autoImplicit false

namespace TokenQuery

/-- The parameters of one pass. `range` bounds the number of tokens that the pass yields. -/
structure Traversal where
  reverse : Bool := false
  range : Option Nat := none
  includeSelf : Bool := false
  deriving DecidableEq, Inhabited

namespace Traversal

/-- A token source cannot include itself, so a traversal that asks for it is refused. -/
def check (traversal : Traversal) : Except QueryError Unit :=
  if traversal.includeSelf then .error .selfInclusion else .ok ()

/-- The traversal over all the tokens in the same direction. -/
def unbounded (traversal : Traversal) : Traversal := { traversal with range := none }

/-- The first items of a pass, as many as the range allows. -/
def limited {α : Type} (traversal : Traversal) (items : List α) : List α :=
  match traversal.range with
  | none => items
  | some range => items.take range

end Traversal

/-- The indexes from `front` up to but not including `back`, consumed from one end. -/
structure Cursor where
  front : Nat
  back : Nat
  reverse : Bool
  remaining : Option Nat
  deriving DecidableEq

namespace Cursor

/-- The cursor of a traversal over the indexes from `front` up to `back`. -/
def span (front back : Nat) (traversal : Traversal) : Cursor :=
  ⟨front, max back front, traversal.reverse, traversal.range⟩

def left (cursor : Cursor) : Nat :=
  match cursor.remaining with
  | none => cursor.back - cursor.front
  | some remaining => min remaining (cursor.back - cursor.front)

/-- The least and the greatest number of indexes that the cursor will still yield. The count is
exact, so they are the same. -/
def sizeHint (cursor : Cursor) : Nat × Option Nat := (cursor.left, some cursor.left)

def next? (cursor : Cursor) : Option (Nat × Cursor) :=
  if cursor.front ≥ cursor.back ∨ cursor.remaining = some 0 then none
  else
    let remaining := cursor.remaining.map (· - 1)
    if cursor.reverse then
      some (cursor.back - 1, { cursor with back := cursor.back - 1, remaining })
    else
      some (cursor.front, { cursor with front := cursor.front + 1, remaining })

theorem left_of_next?_eq_some {cursor after : Cursor} {index : Nat}
    (h : cursor.next? = some (index, after)) : cursor.left = after.left + 1 := by
  obtain ⟨front, back, reverse, remaining⟩ := cursor
  unfold next? at h
  split at h
  · cases h
  · rename_i going
    simp only [not_or, Nat.not_le] at going
    dsimp only at h
    split at h
    all_goals
      simp only [Option.some.injEq, Prod.mk.injEq] at h
      obtain ⟨-, rfl⟩ := h
      cases remaining with
      | none => simp only [left, Option.map_none]; omega
      | some remaining =>
        have : remaining ≠ 0 := by simpa using going.2
        simp only [left, Option.map_some]; omega

theorem left_of_next?_eq_none {cursor : Cursor} (h : cursor.next? = none) : cursor.left = 0 := by
  obtain ⟨front, back, reverse, remaining⟩ := cursor
  unfold next? at h
  split at h
  · rename_i stopped
    rcases stopped with stopped | stopped
    · dsimp only at stopped
      cases remaining <;> simp only [left] <;> omega
    · simp only at stopped; subst stopped; simp [left]
  · dsimp only at h; split at h <;> cases h

/-- The cursor after every index that it yields, at most `steps` of them, with those indexes. -/
private def yield : Nat → Cursor → List (Nat × Cursor)
  | 0, _ => []
  | steps + 1, cursor =>
    match cursor.next? with
    | none => []
    | some (index, after) => (index, after) :: yield steps after

/-- Every index that the cursor yields, with the cursor after it. -/
def steps (cursor : Cursor) : List (Nat × Cursor) := yield cursor.left cursor

def indexes (cursor : Cursor) : List Nat := cursor.steps.map (·.1)

theorem steps_of_none {cursor : Cursor} (h : cursor.next? = none) : cursor.steps = [] := by
  simp [steps, left_of_next?_eq_none h, yield]

theorem steps_of_some {cursor after : Cursor} {index : Nat}
    (h : cursor.next? = some (index, after)) : cursor.steps = (index, after) :: after.steps := by
  simp [steps, left_of_next?_eq_some h, yield, h]

end Cursor

namespace Source

def cursor (source : Source) (traversal : Traversal) : Cursor :=
  .span 0 source.sequence.size traversal

end Source

namespace Handle

/-- The cursor over the tokens after a handle, or before it when the traversal is reversed. The
token itself is never part of its own traversal. -/
def cursor (handle : Handle) (traversal : Traversal) : Cursor :=
  if traversal.reverse then .span 0 handle.index traversal
  else .span (handle.index + 1) handle.source.sequence.size traversal

end Handle

/-- What yields tokens under a traversal. -/
class Scannable (σ : Type) where
  /-- The handles of one pass, when the traversal is accepted. -/
  tokens : σ → Traversal → List Handle

instance : Scannable Source where
  tokens source traversal := (source.cursor traversal).indexes.filterMap source.at?

instance : Scannable Handle where
  tokens handle traversal := (handle.cursor traversal).indexes.filterMap handle.source.at?

/-- One pass over a token source, or the refusal of its traversal. -/
def pass {σ : Type} [Scannable σ] (target : σ) (traversal : Traversal) :
    Except QueryError (List Handle) := do
  traversal.check
  return Scannable.tokens target traversal

end TokenQuery
