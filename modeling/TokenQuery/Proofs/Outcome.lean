import Mathlib.Data.List.Forall2

/-!
Computations that may fail. When a sequence of steps succeeds, and when reading a list does.
-/

set_option autoImplicit false

namespace TokenQuery

variable {ε α β : Type} {read : α → Except ε β} {items : List α} {results : List β}

theorem bind_eq_ok_iff {first : Except ε α} {next : α → Except ε β} {b : β} :
    (first >>= next) = .ok b ↔ ∃ a, first = .ok a ∧ next a = .ok b := by
  cases first with
  | error error => simp [bind, Except.bind]
  | ok a => simp [bind, Except.bind]

theorem pure_eq_ok_iff {a b : α} : (pure a : Except ε α) = .ok b ↔ b = a := by
  rw [show (pure a : Except ε α) = .ok a from rfl, Except.ok.injEq, eq_comm]

theorem bind_eq_error_iff {first : Except ε α} {next : α → Except ε β} {error : ε} :
    (first >>= next) = .error error ↔
      first = .error error ∨ ∃ a, first = .ok a ∧ next a = .error error := by
  cases first with
  | error other => simp [bind, Except.bind]
  | ok a => simp [bind, Except.bind]

theorem exists_mapM_eq_ok_iff :
    (∃ results, items.mapM read = .ok results) ↔
      ∀ item ∈ items, ∃ result, read item = .ok result := by
  induction items with
  | nil => simp [pure, Except.pure]
  | cons item rest ih =>
    simp only [List.mapM_cons, bind_eq_ok_iff, List.forall_mem_cons, ← ih]
    constructor
    · rintro ⟨_, result, first, others, remaining, _⟩
      exact ⟨⟨result, first⟩, others, remaining⟩
    · rintro ⟨⟨result, first⟩, others, remaining⟩
      exact ⟨result :: others, result, first, others, remaining, rfl⟩

theorem forall_mem_of_mapM_eq_ok {accepts : β → Prop} {holds : α → Prop}
    (each : ∀ item result, read item = .ok result → (accepts result ↔ holds item))
    (done : items.mapM read = .ok results) :
    (∀ result ∈ results, accepts result) ↔ ∀ item ∈ items, holds item := by
  induction items generalizing results with
  | nil =>
    obtain rfl : [] = results := Except.ok.inj done
    simp
  | cons item rest ih =>
    simp only [List.mapM_cons, bind_eq_ok_iff] at done
    obtain ⟨result, first, others, remaining, same⟩ := done
    obtain rfl := Except.ok.inj same
    rw [List.forall_mem_cons, List.forall_mem_cons, each item result first, ih remaining]

theorem mapM_eq_ok_iff :
    items.mapM read = .ok results ↔
      List.Forall₂ (fun item result => read item = .ok result) items results := by
  induction items generalizing results with
  | nil =>
    rw [List.forall₂_nil_left_iff]
    exact pure_eq_ok_iff
  | cons item rest ih =>
    rw [List.forall₂_cons_left_iff]
    simp only [List.mapM_cons, bind_eq_ok_iff, pure_eq_ok_iff, ih]
    constructor
    · rintro ⟨result, first, others, remaining, rfl⟩
      exact ⟨result, others, first, remaining, rfl⟩
    · rintro ⟨result, others, first, remaining, rfl⟩
      exact ⟨result, first, others, remaining, rfl⟩

/-- A list fails with the error of its first item that is not read. -/
theorem mapM_eq_error_iff {error : ε} :
    items.mapM read = .error error ↔
      ∃ before item after, items = before ++ item :: after ∧
        (∀ earlier ∈ before, ∃ result, read earlier = .ok result) ∧ read item = .error error := by
  induction items with
  | nil => simp [pure, Except.pure]
  | cons item rest ih =>
    simp only [List.mapM_cons, bind_eq_error_iff, ih]
    constructor
    · rintro (fails |
        ⟨result, reads, ⟨before, failing, after, rfl, earlier, fails⟩ | ⟨_, _, impossible⟩⟩)
      · exact ⟨[], item, rest, rfl, nofun, fails⟩
      · refine ⟨item :: before, failing, after, rfl, ?_, fails⟩
        exact List.forall_mem_cons.mpr ⟨⟨result, reads⟩, earlier⟩
      · cases impossible
    · rintro ⟨before, failing, after, same, earlier, fails⟩
      cases before with
      | nil =>
        obtain ⟨rfl, rfl⟩ := List.cons.inj same
        exact Or.inl fails
      | cons first before =>
        obtain ⟨rfl, rfl⟩ := List.cons.inj same
        obtain ⟨⟨result, reads⟩, others⟩ := List.forall_mem_cons.mp earlier
        exact Or.inr ⟨result, reads, Or.inl ⟨before, failing, after, rfl, others, fails⟩⟩

end TokenQuery
