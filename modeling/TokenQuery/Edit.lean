import TokenQuery.Entries
import TokenQuery.Event
import TokenQuery.Sequence

/-!
Edits: changes of tokens at locations, collected first and applied as a batch. A batch is staged,
which validates it completely, before it is committed; locations always mean the indexes before the
batch.
-/

set_option autoImplicit false

namespace TokenQuery

/-- What happens to a token. -/
inductive Mutation where
  | setArgument (position : Nat) (value : String)
  | appendArgument (value : String)
  | removeArgument (position : Nat)
  | remove
  deriving DecidableEq

/-- A mutation at a location. -/
structure Edit where
  location : Location
  mutation : Mutation
  deriving DecidableEq

def Handle.edit (handle : Handle) (mutation : Mutation) : Edit := ⟨handle.location, mutation⟩

/-- The arguments after a mutation, unless it names a position without an argument. Removing the
token leaves its arguments alone. -/
def Mutation.changeArgs (args : List String) : Mutation → Except Nat (List String)
  | setArgument position value =>
    if position < args.length then .ok (args.set position value) else .error position
  | appendArgument value => .ok (args ++ [value])
  | removeArgument position =>
    if position < args.length then .ok (args.eraseIdx position) else .error position
  | remove => .ok args

/-- A batch validated against a sequence: the tokens as they change, by index, the indexes to remove
in descending order, and the number of edits. -/
structure Staged where
  changed : List (Nat × Token) := []
  removed : List Nat := []
  edits : Nat := 0
  deriving DecidableEq

namespace Staged

/-- A descending list with one more index, which it holds once. -/
def insertIndex (index : Nat) : List Nat → List Nat
  | [] => [index]
  | i :: rest =>
    if i < index then index :: i :: rest
    else if i = index then i :: rest
    else i :: insertIndex index rest

/-- Adds one edit to a batch for a sequence. The edit sees the token as the edits before it leave
it. -/
def add (sequence : Sequence) (staged : Staged) (edit : Edit) : Except QueryError Staged :=
  let location := edit.location
  if location.source ≠ sequence.name then
    .error (.edit (.foreign location sequence.name))
  else
    match sequence.tokens[location.index]? with
    | none => .error (.edit (.noToken location))
    | some unchanged =>
      let token := (staged.changed.lookup location.index).getD unchanged
      match edit.mutation.changeArgs token.args with
      | .error position => .error (.edit (.noArgument position token location))
      | .ok args =>
        .ok {
          changed := Entries.set location.index (token.withArgs args) staged.changed
          removed :=
            if edit.mutation = .remove then insertIndex location.index staged.removed
            else staged.removed
          edits := staged.edits + 1 }

end Staged

namespace Sequence

def stage (sequence : Sequence) (edits : List Edit) : Except QueryError Staged :=
  edits.foldlM (Staged.add sequence) {}

def overwriteAll (tokens : List Token) (changed : List (Nat × Token)) : List Token :=
  changed.foldl (fun tokens (index, token) => tokens.set index token) tokens

/-- The tokens without those at the indexes, which are removed one after another in the given order;
in a descending order the pending indexes stay valid. -/
def eraseAll (tokens : List Token) (removed : List Nat) : List Token :=
  removed.foldl List.eraseIdx tokens

def commit (sequence : Sequence) (staged : Staged) : Sequence :=
  { sequence with tokens := eraseAll (overwriteAll sequence.tokens staged.changed) staged.removed }

def commitEvent (sequence : Sequence) (staged : Staged) : Event :=
  .editsApplied sequence.name staged.edits staged.removed.length

/-- Applies a batch, all of it or, on an error, nothing. The result is the number of edits and the
sequence after them. -/
def apply (sequence : Sequence) (edits : List Edit) : Traced (Nat × Sequence) := do
  let staged ← sequence.stage edits
  Traced.note (sequence.commitEvent staged)
  return (staged.edits, sequence.commit staged)

end Sequence

end TokenQuery
