import TokenQuery.Error

/-!
Events that the operations note, and computations that note them. `Traced` pairs the result of a
computation with its events in order; a failure keeps the events noted before it.
-/

set_option autoImplicit false

namespace TokenQuery

/-- How much an event matters. -/
inductive Level where
  | trace
  | debug
  | info
  | warn
  deriving DecidableEq

def Level.name : Level → String
  | trace => "TRACE"
  | debug => "DEBUG"
  | info => "INFO"
  | warn => "WARN"

/-- What an operation can note. -/
inductive Event where
  | limitReached (filter : Nat)
  | queryExecuted (filters scanned : Nat) (terminated : Bool)
  | resolvingObject (objectType : String)
  | typeUndeclared (objectType : String)
  | editsApplied (source : String) (edits removed : Nat)
  | datasetEdited (sources edits : Nat)
  | settingsLoaded (origin : String) (queries rules : Nat)
  deriving DecidableEq

/-- The value of one field of an event. -/
inductive FieldValue where
  | count (n : Nat)
  | flag (b : Bool)
  | text (s : String)
  deriving DecidableEq

namespace Event

def level : Event → Level
  | limitReached _ => .trace
  | queryExecuted .. | resolvingObject _ | editsApplied .. | datasetEdited .. => .debug
  | settingsLoaded .. => .info
  | typeUndeclared _ => .warn

def message : Event → String
  | limitReached _ => "terminating filter reached its limit"
  | queryExecuted .. => "query executed"
  | resolvingObject _ => "resolving object"
  | typeUndeclared _ => "no source declares this object type"
  | editsApplied .. => "edits applied"
  | datasetEdited .. => "dataset edited"
  | settingsLoaded .. => "settings loaded"

def fields : Event → List (String × FieldValue)
  | limitReached filter => [("filter", .count filter)]
  | queryExecuted filters scanned terminated =>
    [("filters", .count filters), ("scanned", .count scanned), ("terminated", .flag terminated)]
  | resolvingObject objectType | typeUndeclared objectType => [("object_type", .text objectType)]
  | editsApplied source edits removed =>
    [("source", .text source), ("edits", .count edits), ("removed", .count removed)]
  | datasetEdited sources edits => [("sources", .count sources), ("edits", .count edits)]
  | settingsLoaded origin queries rules =>
    [("origin", .text origin), ("queries", .count queries), ("rules", .count rules)]

end Event

/-- A result or a failure, with the events noted on the way. -/
structure Traced (α : Type) where
  result : Except QueryError α
  events : List Event

namespace Traced

variable {α β : Type}

def note (event : Event) : Traced Unit := ⟨.ok (), [event]⟩

def noteAll (events : List Event) : Traced Unit := ⟨.ok (), events⟩

def ofExcept (result : Except QueryError α) : Traced α := ⟨result, []⟩

def fail (error : QueryError) : Traced α := ⟨.error error, []⟩

instance : Monad Traced where
  pure a := ⟨.ok a, []⟩
  bind first next :=
    match first.result with
    | .error error => ⟨.error error, first.events⟩
    | .ok a => ⟨(next a).result, first.events ++ (next a).events⟩

instance : MonadLift (Except QueryError) Traced := ⟨ofExcept⟩

theorem bind_of_ok {first : Traced α} {next : α → Traced β} {a : α} (h : first.result = .ok a) :
    first >>= next = ⟨(next a).result, first.events ++ (next a).events⟩ := by
  simp only [bind, h]

theorem bind_of_error {first : Traced α} {next : α → Traced β} {error : QueryError}
    (h : first.result = .error error) : first >>= next = ⟨.error error, first.events⟩ := by
  simp only [bind, h]

theorem result_bind_of_ok {first : Traced α} {next : α → Traced β} {a : α}
    (h : first.result = .ok a) : (first >>= next).result = (next a).result := by
  rw [bind_of_ok h]

theorem result_bind_of_error {first : Traced α} {next : α → Traced β} {error : QueryError}
    (h : first.result = .error error) : (first >>= next).result = .error error := by
  rw [bind_of_error h]

theorem result_bind (first : Traced α) (next : α → Traced β) :
    (first >>= next).result = first.result >>= fun a => (next a).result := by
  cases h : first.result with
  | error error => rw [bind_of_error h]; rfl
  | ok a => rw [bind_of_ok h]; rfl

theorem result_bind_eq_ok_iff {first : Traced α} {next : α → Traced β} {b : β} :
    (first >>= next).result = .ok b ↔ ∃ a, first.result = .ok a ∧ (next a).result = .ok b := by
  rw [result_bind]
  cases first.result with
  | error error => simp [bind, Except.bind]
  | ok a => simp [bind, Except.bind]

private theorem id_map_eq (x : Traced α) : id <$> x = x := by
  obtain ⟨_ | a, events⟩ := x
  · rfl
  · simp [Functor.map]

private theorem pure_bind_eq (a : α) (next : α → Traced β) : pure a >>= next = next a := by
  simp [bind, pure]

private theorem bind_bind_eq {γ : Type} (x : Traced α) (second : α → Traced β)
    (third : β → Traced γ) : x >>= second >>= third = x >>= fun a => second a >>= third := by
  obtain ⟨_ | a, events⟩ := x
  · rfl
  · cases h : (second a).result with
    | error error => simp [bind, h]
    | ok b => simp [bind, h, List.append_assoc]

instance : LawfulMonad Traced :=
  LawfulMonad.mk' Traced id_map_eq pure_bind_eq bind_bind_eq

end Traced

end TokenQuery
