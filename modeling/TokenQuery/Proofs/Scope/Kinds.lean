import TokenQuery.Proofs.Scope.Boundary

/-!
Records of the same kind. Main statement: where the relation between an owner and what ends its
record is reflexive, symmetric and transitive (`boundedBy_refl_symm_trans`). There are two
exceptions. The item prefix alone is the name of no item, though an owner with that name is bounded
by items; and a category named like an item is bounded by items, but ends the records of the other
categories. Away from these the relation is an equivalence.
-/

set_option autoImplicit false

namespace TokenQuery.ScopeRules

/-- The boundary of an owner accepts the token, so the owner's record ends there. -/
def BoundedBy (rules : ScopeRules) (owner token : Token) : Prop :=
  ∃ matcher, (rules.boundary owner).compile = .ok matcher ∧ matcher.accepts token = true

instance (rules : ScopeRules) (owner token : Token) : Decidable (rules.BoundedBy owner token) :=
  match compiled : (rules.boundary owner).compile with
  | .ok matcher => decidable_of_iff (matcher.accepts token = true) (by simp [BoundedBy, compiled])
  | .error _ => isFalse (by simp [BoundedBy, compiled])

/-- The name is the item prefix, when there is one, with nothing or a line feed behind it. -/
def BarePrefix (rules : ScopeRules) (name : String) : Prop :=
  rules.itemPrefix ≠ "" ∧
    (name.toList = rules.itemPrefix.toList ∨
      ∃ rest, name.toList = rules.itemPrefix.toList ++ '\n' :: rest)

/-- The second name begins with the item prefix, when there is one, and the first does not. -/
def Straddles (rules : ScopeRules) (first second : String) : Prop :=
  rules.isItem first = false ∧ rules.isItem second = true

instance (rules : ScopeRules) (first second : String) : Decidable (rules.Straddles first second) :=
  inferInstanceAs (Decidable (_ ∧ _))

variable {rules : ScopeRules} {name other third : String} {owner token : Token}

private theorem boundedBy_iff_ends :
    rules.BoundedBy owner token ↔ rules.Ends owner.name token.name := by
  obtain ⟨matcher, compiled⟩ := rules.exists_compile_boundary owner
  rw [← accepts_boundary_iff compiled, BoundedBy, compiled]
  simp

private theorem barePrefix_iff :
    rules.BarePrefix name ↔ rules.isItem name = true ∧ ¬ rules.NamesItem name := by
  rw [isItem_eq_true_iff, BarePrefix, and_assoc]
  refine and_congr_right fun _ => ?_
  constructor
  · rintro (alone | ⟨rest, split⟩)
    · refine ⟨alone ▸ List.prefix_refl _, ?_⟩
      rintro ⟨c, rest, split, _⟩
      rw [alone] at split
      simp at split
    · refine ⟨split ▸ List.prefix_append _ _, ?_⟩
      rintro ⟨c, rest', split', ordinary⟩
      rw [split, List.append_cancel_left_eq] at split'
      exact ordinary (List.cons.inj split').1.symm
  · rintro ⟨⟨rest, split⟩, unnamed⟩
    cases rest with
    | nil => exact .inl (by rw [← split, List.append_nil])
    | cons c rest =>
      by_cases feed : c = '\n'
      · exact .inr ⟨rest, by rw [← split, feed]⟩
      · exact absurd ⟨c, rest, split.symm, feed⟩ unnamed

private theorem ends_cases (ends : rules.Ends name other) :
    (rules.isItem name = true ∧ rules.isItem other = true ∧ rules.NamesItem other) ∨
      (rules.isItem name = false ∧ name ∈ rules.categories ∧ other ∈ rules.categories) ∨
      (rules.isItem name = false ∧ name ∉ rules.categories ∧ other = name) := by
  unfold Ends at ends
  split at ends
  · rename_i item
    exact .inl ⟨item, isItem_of_namesItem item ends, ends⟩
  · rename_i ordinary
    rw [Bool.not_eq_true] at ordinary
    split at ends
    · rename_i listed
      exact .inr (.inl ⟨ordinary, listed, ends⟩)
    · rename_i unlisted
      exact .inr (.inr ⟨ordinary, unlisted, ends⟩)

private theorem ends_self_iff : rules.Ends name name ↔ ¬ rules.BarePrefix name := by
  rw [barePrefix_iff]
  cases item : rules.isItem name <;> simp [Ends, item]

/-- What ends a record has its own record ended by the owner, unless the owner's name is a bare
prefix or is that of no item while the other one is. -/
private theorem ends_swap_iff (ends : rules.Ends name other) :
    rules.Ends other name ↔ ¬ rules.BarePrefix name ∧ ¬ rules.Straddles name other := by
  rw [barePrefix_iff, Straddles]
  obtain ⟨item, otherItem, _⟩ | ⟨ordinary, listed, otherListed⟩ | ⟨ordinary, unlisted, rfl⟩ :=
    ends_cases ends
  · simp [Ends, item, otherItem]
  · cases otherItem : rules.isItem other with
    | true =>
      -- An item's record ends at items only, and the owner is none.
      have unnamed : ¬ rules.NamesItem name := by
        intro named
        rw [isItem_of_namesItem otherItem named] at ordinary
        cases ordinary
      simp [Ends, otherItem, ordinary, unnamed]
    | false => simp [Ends, otherItem, otherListed, ordinary, listed]
  · simp [Ends, ordinary, unlisted]

/-- What ends the record of something that ends a record ends that record as well, unless the first
owner is a category, the second one is a category named like an item, and the third name is that of
no category. -/
private theorem ends_trans_iff (ends : rules.Ends name other) (next : rules.Ends other third) :
    rules.Ends name third ↔ (rules.Straddles name other → third ∈ rules.categories) := by
  rw [Straddles]
  obtain ⟨item, otherItem, _⟩ | ⟨ordinary, listed, otherListed⟩ | ⟨ordinary, unlisted, rfl⟩ :=
    ends_cases ends
  · have named : rules.NamesItem third := by simpa [Ends, otherItem] using next
    simp [Ends, item, named]
  · cases otherItem : rules.isItem other with
    | true => simp [Ends, ordinary, listed]
    | false =>
      have thirdListed : third ∈ rules.categories := by
        simpa [Ends, otherItem, otherListed] using next
      simp [Ends, ordinary, listed, thirdListed]
  · simp [ordinary, next]

private theorem not_straddles_of_ends (separate : rules.Separate) (ends : rules.Ends name other) :
    ¬ rules.Straddles name other := by
  rintro ⟨ordinary, otherItem⟩
  obtain ⟨item, _, _⟩ | ⟨_, _, otherListed⟩ | ⟨_, _, rfl⟩ := ends_cases ends
  · rw [item] at ordinary
    cases ordinary
  · rw [separate other otherListed] at otherItem
    cases otherItem
  · rw [otherItem] at ordinary
    cases ordinary

/-- A token is bounded by itself exactly when its name is no bare prefix. Where `a` is bounded by
`b`, then `b` is bounded by `a` exactly when the name of `a` is no bare prefix and the two names do
not straddle; and where `b` is bounded by `c`, then so is `a`, unless the first two names straddle
and the third is that of no category. Where no category is named like an item no such names
straddle, and among the tokens that are not named by a bare prefix the relation is an equivalence.
-/
theorem boundedBy_refl_symm_trans (rules : ScopeRules) :
    (∀ a, rules.BoundedBy a a ↔ ¬ rules.BarePrefix a.name) ∧
    (∀ a b, rules.BoundedBy a b →
      (rules.BoundedBy b a ↔ ¬ rules.BarePrefix a.name ∧ ¬ rules.Straddles a.name b.name)) ∧
    (∀ a b c, rules.BoundedBy a b → rules.BoundedBy b c →
      (rules.BoundedBy a c ↔ (rules.Straddles a.name b.name → c.name ∈ rules.categories))) ∧
    (rules.Separate →
      (∀ a b c, rules.BoundedBy a b → rules.BoundedBy b c → rules.BoundedBy a c) ∧
      Equivalence fun a b : { token : Token // ¬ rules.BarePrefix token.name } =>
        rules.BoundedBy a b) := by
  simp only [boundedBy_iff_ends]
  refine ⟨fun _ => ends_self_iff, fun _ _ => ends_swap_iff, fun _ _ _ => ends_trans_iff, ?_⟩
  intro separate
  have transitive (a b c : Token) (ends : rules.Ends a.name b.name)
      (next : rules.Ends b.name c.name) : rules.Ends a.name c.name :=
    (ends_trans_iff ends next).mpr fun straddles =>
      absurd straddles (not_straddles_of_ends separate ends)
  refine ⟨transitive, ⟨?_, ?_, ?_⟩⟩
  · rintro ⟨a, plain⟩
    exact ends_self_iff.mpr plain
  · rintro ⟨a, plain⟩ ⟨b, _⟩ ends
    exact (ends_swap_iff ends).mpr ⟨plain, not_straddles_of_ends separate ends⟩
  · rintro ⟨a, _⟩ ⟨b, _⟩ ⟨c, _⟩ ends next
    exact transitive a b c ends next

/-- Rules under which a category is named like an item. -/
private def overlapping : ScopeRules where
  categories := ["WORD", "ITEM_WORD"]

/-- A category is bounded by one that is named like an item, but not the other way round, and not by
what bounds the item. -/
theorem boundedBy_straddling :
    overlapping.BoundedBy (.bare "WORD") (.bare "ITEM_WORD") ∧
      overlapping.BoundedBy (.bare "ITEM_WORD") (.bare "ITEM_PANTS") ∧
      overlapping.Straddles "WORD" "ITEM_WORD" ∧
      ¬ overlapping.BoundedBy (.bare "ITEM_WORD") (.bare "WORD") ∧
      ¬ overlapping.BoundedBy (.bare "WORD") (.bare "ITEM_PANTS") := by
  have ends : overlapping.BoundedBy (.bare "WORD") (.bare "ITEM_WORD") := by decide
  have next : overlapping.BoundedBy (.bare "ITEM_WORD") (.bare "ITEM_PANTS") := by decide
  have straddles : overlapping.Straddles "WORD" "ITEM_WORD" := by decide
  obtain ⟨_, swap, onward, _⟩ := boundedBy_refl_symm_trans overlapping
  refine ⟨ends, next, straddles, ?_, ?_⟩
  · rw [swap _ _ ends]
    exact fun plain => plain.2 straddles
  · rw [onward _ _ _ ends next]
    exact fun listed => absurd (listed straddles) (by decide)

/-- Under the standard rules the item prefix alone is not bounded by itself, and it is bounded by an
item that is not bounded by it. Under rules that name a category like an item the relation is not
transitive either. -/
theorem boundedBy_not_equivalence :
    ¬ standard.BoundedBy (.bare "ITEM_") (.bare "ITEM_") ∧
      (standard.BoundedBy (.bare "ITEM_") (.bare "ITEM_PANTS") ∧
        ¬ standard.BoundedBy (.bare "ITEM_PANTS") (.bare "ITEM_")) ∧
      overlapping.BoundedBy (.bare "WORD") (.bare "ITEM_WORD") ∧
      overlapping.BoundedBy (.bare "ITEM_WORD") (.bare "ITEM_PANTS") ∧
      ¬ overlapping.BoundedBy (.bare "WORD") (.bare "ITEM_PANTS") := by
  decide

end TokenQuery.ScopeRules
