import TokenQuery.Edit

/-!
What a batch of edits means for a sequence, token by token. The edits at one location act on its
token one after another, in the order of the batch, and a removed token is left out. An edit is
refused when it asks for a token or an argument that is not there.
-/

set_option autoImplicit false

namespace TokenQuery

namespace Mutation

/-- The position of the argument that a mutation asks for. -/
def position? : Mutation → Option Nat
  | setArgument position _ | removeArgument position => some position
  | appendArgument _ | remove => none

/-- The arguments as a mutation leaves them. One that asks for an argument that is not there changes
nothing. -/
def effect (args : List String) : Mutation → List String
  | setArgument position value => args.set position value
  | appendArgument value => args ++ [value]
  | removeArgument position => args.eraseIdx position
  | remove => args

variable {mutation : Mutation} {args : List String} {position : Nat}

theorem changeArgs_of_missing (asks : mutation.position? = some position)
    (missing : args.length ≤ position) : mutation.changeArgs args = .error position := by
  have beyond : ¬ position < args.length := Nat.not_lt.mpr missing
  cases mutation with
  | setArgument _ _ | removeArgument _ =>
    obtain rfl := Option.some.inj asks
    simp only [changeArgs, if_neg beyond]
  | appendArgument _ | remove => cases asks

theorem changeArgs_of_present
    (present : ∀ position, mutation.position? = some position → position < args.length) :
    mutation.changeArgs args = .ok (mutation.effect args) := by
  cases mutation with
  | setArgument position _ | removeArgument position =>
    simp only [changeArgs, effect, if_pos (present position rfl)]
  | appendArgument _ | remove => rfl

end Mutation

namespace Batch

/-- The mutations of a batch at a location, in the order of the batch. -/
def mutationsAt (batch : List Edit) (location : Location) : List Mutation :=
  (batch.filter fun edit => edit.location = location).map (·.mutation)

/-- The arguments of the token at a location after the edits of a batch. -/
def argsAfter (batch : List Edit) (location : Location) (args : List String) : List String :=
  (mutationsAt batch location).foldl Mutation.effect args

/-- The token at a location after the edits of a batch, as long as it is not removed. -/
def tokenAfter (batch : List Edit) (location : Location) (token : Token) : Token :=
  token.withArgs (argsAfter batch location token.args)

/-- Some edit of the batch removes the token at a location. -/
def removes (batch : List Edit) (location : Location) : Bool :=
  (mutationsAt batch location).contains .remove

/-- What is left of the token at a location after a batch. -/
def survivor? (batch : List Edit) (location : Location) (token : Token) : Option Token :=
  if removes batch location then none else some (tokenAfter batch location token)

variable {batch : List Edit} {edit : Edit} {location : Location} {token : Token}

private theorem mutationsAt_append_singleton :
    mutationsAt (batch ++ [edit]) location =
      mutationsAt batch location ++ if edit.location = location then [edit.mutation] else [] := by
  unfold mutationsAt
  rw [List.filter_append, List.map_append]
  by_cases here : edit.location = location <;> simp [here]

private theorem mutationsAt_eq_nil (elsewhere : ∀ edit ∈ batch, edit.location ≠ location) :
    mutationsAt batch location = [] := by
  simpa [mutationsAt, List.filter_eq_nil_iff] using elsewhere

@[simp] theorem tokenAfter_nil : tokenAfter [] location token = token := rfl

theorem tokenAfter_append_of_eq (here : edit.location = location) :
    tokenAfter (batch ++ [edit]) location token =
      (tokenAfter batch location token).withArgs
        (edit.mutation.effect (tokenAfter batch location token).args) := by
  simp [tokenAfter, argsAfter, mutationsAt_append_singleton, here, Token.withArgs]

theorem tokenAfter_append_of_ne (elsewhere : edit.location ≠ location) :
    tokenAfter (batch ++ [edit]) location token = tokenAfter batch location token := by
  simp [tokenAfter, argsAfter, mutationsAt_append_singleton, elsewhere]

@[simp] theorem removes_nil : removes [] location = false := rfl

theorem removes_append_singleton :
    removes (batch ++ [edit]) location = true ↔
      removes batch location = true ∨ edit.location = location ∧ edit.mutation = .remove := by
  unfold removes
  rw [mutationsAt_append_singleton, List.contains_append, Bool.or_eq_true]
  by_cases here : edit.location = location
  · simp [here, eq_comm (a := Mutation.remove)]
  · simp [here]

theorem survivor?_of_removes (gone : removes batch location = true) :
    survivor? batch location token = none := if_pos gone

theorem survivor?_of_not_removes (stays : ¬ removes batch location = true) :
    survivor? batch location token = some (tokenAfter batch location token) := if_neg stays

theorem survivor?_of_elsewhere (elsewhere : ∀ edit ∈ batch, edit.location ≠ location) :
    survivor? batch location token = some token := by
  simp [survivor?, removes, tokenAfter, argsAfter, mutationsAt_eq_nil elsewhere, Token.withArgs]

end Batch

namespace Sequence

/-- The sequence after a batch: the tokens that are left, in their order, each after the edits at
its location. Locations mean the indexes before the batch. -/
def rewritten (sequence : Sequence) (batch : List Edit) : Sequence :=
  { sequence with
    tokens := sequence.tokens.zipIdx.filterMap fun (token, index) =>
      Batch.survivor? batch ⟨sequence.name, index⟩ token }

/-- Why a sequence refuses an edit of its own, given the edits before it in the batch: the edit asks
for a token that the sequence does not have, or for an argument that the token does not have after
the edits before. -/
inductive Refuses (sequence : Sequence) (earlier : List Edit) (edit : Edit) : EditError → Prop
  | noToken :
      edit.location.source = sequence.name → sequence.size ≤ edit.location.index →
      Refuses sequence earlier edit (.noToken edit.location)
  | noArgument {token : Token} {position : Nat} :
      edit.location.source = sequence.name → sequence.tokens[edit.location.index]? = some token →
      edit.mutation.position? = some position →
      (Batch.argsAfter earlier edit.location token.args).length ≤ position →
      Refuses sequence earlier edit
        (.noArgument position (Batch.tokenAfter earlier edit.location token) edit.location)

/-- The refusal of an edit, if it is refused. -/
def refusal? (sequence : Sequence) (earlier : List Edit) (edit : Edit) : Option EditError :=
  if edit.location.source = sequence.name then
    match sequence.tokens[edit.location.index]? with
    | none => some (.noToken edit.location)
    | some token =>
      let token := Batch.tokenAfter earlier edit.location token
      (edit.mutation.position?.filter (token.nargs ≤ ·)).map (.noArgument · token edit.location)
  else none

/-- The refusal of the first edit of a batch that is refused, after some edits before. -/
def firstRefusal? (sequence : Sequence) (earlier : List Edit) : List Edit → Option EditError
  | [] => none
  | edit :: later =>
    (sequence.refusal? earlier edit).or (sequence.firstRefusal? (earlier ++ [edit]) later)

variable {sequence : Sequence} {earlier batch : List Edit} {edit : Edit} {error : EditError}

@[simp] theorem rewritten_name : (sequence.rewritten batch).name = sequence.name := rfl

theorem refusal?_of_ne (foreign : edit.location.source ≠ sequence.name) :
    sequence.refusal? earlier edit = none := by
  simp only [refusal?, if_neg foreign]

theorem refusal?_eq_some_iff :
    sequence.refusal? earlier edit = some error ↔ sequence.Refuses earlier edit error := by
  unfold refusal?
  constructor
  · intro refused
    split at refused
    · rename_i own
      split at refused
      · rename_i missing
        obtain rfl := Option.some.inj refused
        exact .noToken own (List.getElem?_eq_none_iff.mp missing)
      · rename_i token found
        obtain ⟨position, asked, rfl⟩ := Option.map_eq_some_iff.mp refused
        obtain ⟨asks, beyond⟩ := Option.filter_eq_some_iff.mp asked
        exact .noArgument own found asks (of_decide_eq_true beyond)
    · cases refused
  · rintro (⟨own, missing⟩ | ⟨own, found, asks, beyond⟩)
    · rw [if_pos own, List.getElem?_eq_none_iff.mpr missing]
    · rename_i token position
      rw [if_pos own, found]
      have nargs : (Batch.tokenAfter earlier edit.location token).nargs ≤ position := beyond
      simp [asks, Option.filter, nargs]

theorem firstRefusal?_eq_none_iff :
    sequence.firstRefusal? earlier batch = none ↔
      ∀ between edit later, batch = between ++ edit :: later →
        sequence.refusal? (earlier ++ between) edit = none := by
  induction batch generalizing earlier with
  | nil => simp [firstRefusal?]
  | cons first rest ih =>
    rw [firstRefusal?, Option.or_eq_none_iff, ih]
    constructor
    · rintro ⟨accepted, onward⟩ between edit later split
      cases between with
      | nil =>
        obtain ⟨rfl, rfl⟩ := List.cons.inj split
        rw [List.append_nil]
        exact accepted
      | cons head between =>
        obtain ⟨rfl, rest_eq⟩ := List.cons.inj split
        rw [List.append_cons]
        exact onward between edit later rest_eq
    · intro every
      refine ⟨by simpa using every [] first rest rfl, ?_⟩
      intro between edit later split
      rw [← List.append_cons]
      exact every (first :: between) edit later (by rw [split]; rfl)

theorem firstRefusal?_eq_some_iff :
    sequence.firstRefusal? earlier batch = some error ↔
      ∃ between edit later, batch = between ++ edit :: later ∧
        sequence.firstRefusal? earlier between = none ∧
        sequence.Refuses (earlier ++ between) edit error := by
  induction batch generalizing earlier with
  | nil => simp [firstRefusal?]
  | cons first rest ih =>
    rw [firstRefusal?]
    constructor
    · intro refused
      cases here : sequence.refusal? earlier first with
      | some refusal =>
        rw [here, Option.some_or] at refused
        obtain rfl := Option.some.inj refused
        refine ⟨[], first, rest, rfl, rfl, ?_⟩
        rw [List.append_nil]
        exact refusal?_eq_some_iff.mp here
      | none =>
        rw [here, Option.none_or, ih] at refused
        obtain ⟨between, edit, later, split, accepted, refuses⟩ := refused
        refine ⟨first :: between, edit, later, by rw [split]; rfl, ?_, ?_⟩
        · rw [firstRefusal?, here, Option.none_or, accepted]
        · rw [List.append_cons]
          exact refuses
    · rintro ⟨between, edit, later, split, accepted, refuses⟩
      cases between with
      | nil =>
        obtain ⟨rfl, rfl⟩ := List.cons.inj split
        rw [List.append_nil] at refuses
        rw [refusal?_eq_some_iff.mpr refuses, Option.some_or]
      | cons head between =>
        obtain ⟨rfl, rest_eq⟩ := List.cons.inj split
        rw [firstRefusal?, Option.or_eq_none_iff] at accepted
        rw [List.append_cons] at refuses
        rw [accepted.1, Option.none_or, ih]
        exact ⟨between, edit, later, rest_eq, accepted.2, refuses⟩

end Sequence

end TokenQuery
