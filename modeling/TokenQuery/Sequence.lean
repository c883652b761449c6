import TokenQuery.Token

/-!
Token sequences, the places where they are kept, and handles on their tokens.

Two handles are the same slot when they point at the same index of the same kept sequence, whatever
the tokens contain; `Handle.location` names a slot by the sequence's name instead.
-/

set_option autoImplicit false

namespace TokenQuery

/-- A named list of tokens. -/
structure Sequence where
  name : String
  tokens : List Token := []
  deriving DecidableEq, Inhabited

namespace Sequence

def size (sequence : Sequence) : Nat := sequence.tokens.length

def push (sequence : Sequence) (token : Token) : Sequence :=
  { sequence with tokens := sequence.tokens ++ [token] }

def extend (sequence : Sequence) (tokens : List Token) : Sequence :=
  { sequence with tokens := sequence.tokens ++ tokens }

/-- The sequence with other arguments for the token at an index. -/
def setArgs (sequence : Sequence) (index : Nat) (args : List String) : Sequence :=
  { sequence with tokens := sequence.tokens.modify index (·.withArgs args) }

def render (sequence : Sequence) : String := String.join (sequence.tokens.map Token.render)

end Sequence

/-- A sequence at the place where it is kept: a store, and a position in it. -/
structure Source where
  store : Nat
  position : Nat
  sequence : Sequence
  deriving DecidableEq, Inhabited

/-- One token of a source, by its index. -/
structure Handle where
  source : Source
  index : Nat
  index_lt : index < source.sequence.size
  deriving DecidableEq

namespace Handle

def token (handle : Handle) : Token :=
  handle.source.sequence.tokens.get ⟨handle.index, handle.index_lt⟩

def location (handle : Handle) : Location := ⟨handle.source.sequence.name, handle.index⟩

/-- Both handles point at one slot: the same index of the sequence at the same place. -/
def sameSlot (a b : Handle) : Bool :=
  a.source.store == b.source.store && a.source.position == b.source.position &&
    a.index == b.index

def describe (handle : Handle) : String := handle.location.render ++ " " ++ handle.token.render

theorem sameSlot_refl (handle : Handle) : handle.sameSlot handle = true := by simp [sameSlot]

theorem sameSlot_comm (a b : Handle) : a.sameSlot b = b.sameSlot a := by
  simp only [sameSlot, BEq.comm]

end Handle

namespace Source

/-- The handle on the token at an index, when there is one. -/
def at? (source : Source) (index : Nat) : Option Handle :=
  if h : index < source.sequence.size then some ⟨source, index, h⟩ else none

/-- The handle on the first token, which is the root of the source. -/
def root? (source : Source) : Option Handle := source.at? 0

theorem at?_eq_some_iff {source : Source} {index : Nat} {handle : Handle} :
    source.at? index = some handle ↔ handle.source = source ∧ handle.index = index := by
  unfold at?
  split
  · constructor
    · rintro ⟨⟩; exact ⟨rfl, rfl⟩
    · obtain ⟨s, i, h⟩ := handle
      rintro ⟨rfl, rfl⟩; rfl
  · rename_i h
    constructor
    · rintro ⟨⟩
    · rintro ⟨rfl, rfl⟩; exact absurd handle.index_lt h

theorem at?_isSome {source : Source} {index : Nat} :
    (source.at? index).isSome = true ↔ index < source.sequence.size := by
  unfold at?; split <;> simp_all

end Source

end TokenQuery
