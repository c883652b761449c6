import TokenQuery.Proofs.Criteria.Meaning
import TokenQuery.Proofs.Pattern.Escaped
import TokenQuery.Scope.Rules

/-!
What ends a record. Main statements: the boundary of every owner compiles and accepts the tokens
that end its record (`exists_compile_boundary`, `accepts_boundary_iff`), which are told by their
names alone, whatever characters the item prefix has (`boundary_accepts_by_name`); and where no
category is named like an item, what ends a record begins one with the same boundary
(`boundary_eq_of_ends`).
-/

set_option autoImplicit false

namespace TokenQuery

namespace Criteria

variable {name pattern : Option String} {names : Option (List String)} {token : Token}

theorem passes_some_iff {given : String} :
    Passes name pattern names (some given) ↔
      (∀ expected ∈ name, expected = given) ∧
        (∀ written ∈ pattern, Pattern.Finds written given) ∧ ∀ listed ∈ names, given ∈ listed := by
  constructor
  · rintro ⟨exact, pattern, oneOf⟩
    refine ⟨?_, ?_, ?_⟩
    · intro expected set
      obtain ⟨_, ⟨⟩, same⟩ := exact expected set
      exact same
    · intro written set
      obtain ⟨_, ⟨⟩, finds⟩ := pattern written set
      exact finds
    · intro listed set
      obtain ⟨_, ⟨⟩, member⟩ := oneOf listed set
      exact member
  · rintro ⟨exact, pattern, oneOf⟩
    exact ⟨fun expected set => ⟨given, rfl, exact expected set⟩,
      fun written set => ⟨given, rfl, pattern written set⟩,
      fun listed set => ⟨given, rfl, oneOf listed set⟩⟩

theorem holds_named_iff :
    ({ name := name, namePattern := pattern, nameIn := names } : Criteria).Holds token ↔
      Passes name pattern names (some token.name) :=
  ⟨fun holds => holds.name, fun passes => ⟨passes, nofun, nofun, nofun, nofun⟩⟩

theorem acceptable_named_iff :
    ({ name := name, namePattern := pattern, nameIn := names } : Criteria).Acceptable ↔
      ¬ (pattern.isSome ∧ names.isSome) ∧ ∀ written ∈ pattern, Pattern.Reads written := by
  constructor
  · rintro ⟨name_once, _, name_reads, _⟩
    exact ⟨name_once, name_reads⟩
  · rintro ⟨name_once, name_reads⟩
    exact ⟨name_once, by simp, name_reads, nofun⟩

end Criteria

namespace ScopeRules

variable {rules : ScopeRules} {name : String} {owner token : Token} {matcher : Matcher}

/-- The name is the item prefix with a character other than a line feed behind it, and anything
behind that. -/
def NamesItem (rules : ScopeRules) (name : String) : Prop :=
  ∃ c rest, name.toList = rules.itemPrefix.toList ++ c :: rest ∧ c ≠ '\n'

/-- A token with the second name ends the record of an owner with the first. -/
def Ends (rules : ScopeRules) (owner name : String) : Prop :=
  if rules.isItem owner then rules.NamesItem name
  else if owner ∈ rules.categories then name ∈ rules.categories
  else name = owner

/-- No category begins with the item prefix, when there is one. -/
def Separate (rules : ScopeRules) : Prop :=
  ∀ category ∈ rules.categories, rules.isItem category = false

instance (rules : ScopeRules) : Decidable rules.Separate :=
  inferInstanceAs (Decidable (∀ category ∈ rules.categories, rules.isItem category = false))

theorem isItem_eq_true_iff :
    rules.isItem name = true ↔
      rules.itemPrefix ≠ "" ∧ rules.itemPrefix.toList <+: name.toList := by
  rw [ScopeRules.isItem, Bool.and_eq_true, Bool.not_eq_true', Text.startsWith,
    List.isPrefixOf_iff_prefix, ← Bool.not_eq_true, String.isEmpty_iff]

private theorem anchored_itemPattern (rules : ScopeRules) :
    Pattern.anchored rules.itemPattern = .ok (.opening rules.itemPrefix.toList) :=
  Pattern.anchored_escape rules.itemPrefix.toList

private theorem finds_itemPattern_iff :
    Pattern.Finds rules.itemPattern name ↔ rules.NamesItem name := by
  rw [NamesItem, ← Pattern.Expr.occursIn_opening_iff, Pattern.Finds, anchored_itemPattern]
  simp

/-- The boundary of an owner is one criterion of the name. -/
private theorem boundary_eq (rules : ScopeRules) (owner : Token) :
    rules.boundary owner =
      if rules.isItem owner.name then { namePattern := some rules.itemPattern }
      else if owner.name ∈ rules.categories then { nameIn := some rules.categories }
      else { name := some owner.name } := by
  simp only [boundary, List.contains_iff_mem]
  rfl

/-- That the boundary of every owner compiles relies on an item prefix of any length being spelled
out in a pattern, whose characters take no room by `Expr.cost`. -/
theorem exists_compile_boundary (rules : ScopeRules) (owner : Token) :
    ∃ matcher, (rules.boundary owner).compile = .ok matcher := by
  rw [Criteria.exists_compile_eq_ok_iff, boundary_eq]
  split
  · refine Criteria.acceptable_named_iff.mpr ⟨by simp, ?_⟩
    rintro written ⟨⟩
    exact ⟨_, rules.anchored_itemPattern⟩
  · split
    · exact Criteria.acceptable_named_iff.mpr ⟨by simp, nofun⟩
    · exact Criteria.acceptable_named_iff.mpr ⟨by simp, nofun⟩

/-- The boundary of an owner accepts exactly the tokens that end its record. -/
theorem accepts_boundary_iff (compiled : (rules.boundary owner).compile = .ok matcher)
    (token : Token) : matcher.accepts token = true ↔ rules.Ends owner.name token.name := by
  rw [Criteria.accepts_iff_holds compiled, boundary_eq, Ends]
  split
  · rw [Criteria.holds_named_iff, Criteria.passes_some_iff, ← finds_itemPattern_iff]
    simp
  · split
    · rw [Criteria.holds_named_iff, Criteria.passes_some_iff]
      simp
    · rw [Criteria.holds_named_iff, Criteria.passes_some_iff]
      simp [eq_comm]

theorem isItem_of_namesItem (isItem : rules.isItem name = true) {other : String}
    (names : rules.NamesItem other) : rules.isItem other = true := by
  obtain ⟨c, rest, split, _⟩ := names
  rw [isItem_eq_true_iff] at isItem ⊢
  refine ⟨isItem.1, ?_⟩
  rw [split]
  exact List.prefix_append _ _

/-- The boundary of every owner compiles, and names alone decide what it accepts. Behind an owner
named like an item these are the names with the item prefix and something more, the first character
of which is not a line feed; behind one named like a category the names of all categories; and
behind any other owner its own name. -/
theorem boundary_accepts_by_name (rules : ScopeRules) (owner : Token) :
    ∃ matcher, (rules.boundary owner).compile = .ok matcher ∧
      ∀ token : Token, matcher.accepts token = true ↔
        if rules.itemPrefix ≠ "" ∧ rules.itemPrefix.toList <+: owner.name.toList then
          ∃ c rest, token.name.toList = rules.itemPrefix.toList ++ c :: rest ∧ c ≠ '\n'
        else if owner.name ∈ rules.categories then token.name ∈ rules.categories
        else token.name = owner.name := by
  obtain ⟨matcher, compiled⟩ := rules.exists_compile_boundary owner
  refine ⟨matcher, compiled, ?_⟩
  intro token
  rw [accepts_boundary_iff compiled, Ends]
  simp only [isItem_eq_true_iff]
  rfl

/-- What ends a record has the boundary of its owner. -/
theorem boundary_eq_of_ends (separate : rules.Separate)
    (ends : rules.Ends owner.name token.name) : rules.boundary token = rules.boundary owner := by
  rw [boundary_eq, boundary_eq]
  unfold Ends at ends
  split at ends
  · rename_i item
    rw [if_pos (isItem_of_namesItem item ends), if_pos item]
  · rename_i ordinary
    split at ends
    · rename_i listed
      rw [separate _ ends, if_neg Bool.false_ne_true, if_pos ends, if_neg ordinary, if_pos listed]
    · rw [ends]

end ScopeRules

end TokenQuery
