import Mathlib.Data.List.Forall2
import TokenQuery.Object.Resolver

/-!
The tags of an object type. Main statement: they are the headers of the first rule about the type,
with the type in the place of every placeholder, and the type itself when no rule is about it
(`normalize_eq_iff`).
-/

set_option autoImplicit false

namespace TokenQuery

namespace TypeRule

/-- The rule lists the object type, or the type begins with the start that the rule gives. -/
def About (objectType : String) : TypeRule → Prop
  | exact types _ => objectType ∈ types
  | prefixed start _ => start.toList <+: objectType.toList

/-- The tag is the header with the object type for each placeholder. -/
def Fills (objectType header tag : String) : Prop :=
  Text.Replaces placeholder.toList objectType.toList header.toList tag.toList

/-- The tags of an object type under some rules, the first of which that is about it counts. -/
inductive TagsOf (objectType : String) : List TypeRule → List String → Prop
  | unruled : TagsOf objectType [] [objectType]
  | ruled {rule : TypeRule} {rest : List TypeRule} {tags : List String} :
      rule.About objectType → List.Forall₂ (Fills objectType) rule.headers tags →
      TagsOf objectType (rule :: rest) tags
  | later {rule : TypeRule} {rest : List TypeRule} {tags : List String} :
      ¬ rule.About objectType → TagsOf objectType rest tags →
      TagsOf objectType (rule :: rest) tags

variable {rule : TypeRule} {rules : List TypeRule} {objectType header tag : String}
  {tags : List String}

private theorem accepts_eq_true_iff : rule.accepts objectType = true ↔ rule.About objectType := by
  cases rule with
  | exact types headers => exact List.contains_iff_mem
  | prefixed start headers => exact List.isPrefixOf_iff_prefix

/-- The placeholder opens with a character that does not come again in it, so that its occurrences
never overlap. -/
private theorem replaced_placeholder_eq_iff :
    Text.replaced placeholder objectType header = tag ↔ Fills objectType header tag := by
  have opening : placeholder.toList =
      Char.ofNat 0x7B :: ['t', 'y', 'p', 'e', Char.ofNat 0x7D] := by decide
  exact Text.replaced_eq_iff opening (by decide)

private theorem map_replaced_eq_iff {headers : List String} :
    headers.map (Text.replaced placeholder objectType) = tags ↔
      List.Forall₂ (Fills objectType) headers tags := by
  rw [← List.forall₂_eq_eq_eq, List.forall₂_map_left_iff]
  simp only [replaced_placeholder_eq_iff]

private theorem findSome?_tags?_eq_iff :
    (rules.findSome? (·.tags? objectType)).getD [objectType] = tags ↔
      TagsOf objectType rules tags := by
  induction rules with
  | nil =>
    constructor
    · rintro rfl
      exact .unruled
    · rintro ⟨⟩
      rfl
  | cons rule rest ih =>
    rw [List.findSome?_cons, tags?]
    by_cases about : rule.About objectType
    · rw [if_pos (accepts_eq_true_iff.mpr about)]
      dsimp only
      rw [Option.getD_some, map_replaced_eq_iff]
      constructor
      · exact .ruled about
      · rintro (_ | ⟨_, filled⟩ | ⟨other, _⟩)
        · exact filled
        · exact absurd about other
    · rw [if_neg (mt accepts_eq_true_iff.mp about)]
      dsimp only
      rw [ih]
      constructor
      · exact .later about
      · rintro (_ | ⟨same, _⟩ | ⟨_, given⟩)
        · exact absurd same about
        · exact given

end TypeRule

/-- An object type has the tags that its rules say and no other. -/
theorem Resolver.normalize_eq_iff {resolver : Resolver} {objectType : String} {tags : List String} :
    resolver.normalize objectType = tags ↔ TypeRule.TagsOf objectType resolver.rules tags :=
  TypeRule.findSome?_tags?_eq_iff

end TokenQuery
