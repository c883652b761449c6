import TokenQuery.Proofs.Object.Readers
import TokenQuery.Proofs.Scope.Dictionary
import TokenQuery.Proofs.Token.Grammar
import TokenQuery.Proofs.Token.RoundTrip

/-!
Signatures as keys. Main statement: tokens without colons are equal when their signatures are, so
that an entry of a dictionary and a query for a signature mean one token; and a token is read back
from its signature exactly when it is legible and reading drops nothing from the ends of the
signature (`signature_identifies_token`).
-/

set_option autoImplicit false

namespace TokenQuery

namespace Shorthand

variable {text : List Char}

/-- Nothing is dropped from the ends of the text when it is read: it has no blank there, and no
bracket of the enclosing pair. -/
structure Plain (text : List Char) : Prop where
  begins : ∀ c ∈ text.head?, Text.isBlank c = false ∧ c ≠ '['
  ends : ∀ c ∈ text.getLast?, Text.isBlank c = false ∧ c ≠ ']'

private theorem exists_trims_encloses_self_iff :
    (∃ body, Text.Trims text body ∧ Encloses body text) ↔ Plain text := by
  constructor
  · rintro ⟨body, trims, encloses⟩
    cases encloses with
    | brackets =>
      obtain ⟨before, after, split, _⟩ := trims.between
      have longer := congrArg List.length split
      simp only [List.length_append, List.length_cons, List.length_nil] at longer
      omega
    | bare opened closed =>
      constructor
      · intro c first
        refine ⟨trims.begins c first, ?_⟩
        rintro rfl
        exact opened first
      · intro c last
        refine ⟨trims.ends c last, ?_⟩
        rintro rfl
        exact closed last
  · intro plain
    refine ⟨text, ⟨⟨[], [], by simp, nofun, nofun⟩, ?_, ?_⟩, .bare ?_ ?_⟩
    · exact fun c first => (plain.begins c first).1
    · exact fun c last => (plain.ends c last).1
    · exact fun opened => (plain.begins '[' opened).2 rfl
    · exact fun closed => (plain.ends ']' closed).2 rfl

end Shorthand

namespace Token

variable {token other : Token}

/-- Neither the name nor an argument has a colon. -/
def Free (token : Token) : Prop := ∀ part ∈ token.name :: token.args, ':' ∉ part.toList

instance (token : Token) : Decidable token.Free :=
  inferInstanceAs (Decidable (∀ part ∈ token.name :: token.args, ':' ∉ part.toList))

private theorem parts_signature (free : token.Free) :
    Text.parts ':' token.signature = token.name :: token.args :=
  Text.parts_eq_iff.mpr ⟨List.cons_ne_nil _ _, free, rfl⟩

private theorem eq_of_signature_eq (free : token.Free) (free' : other.Free)
    (same : token.signature = other.signature) : token = other := by
  have parts : token.name :: token.args = other.name :: other.args := by
    rw [← parts_signature free, same, parts_signature free']
  obtain ⟨name, args⟩ := List.cons.inj parts
  obtain ⟨_, _⟩ := token
  obtain ⟨_, _⟩ := other
  exact congrArg₂ Token.mk name args

private theorem signature_bare (name : String) : (bare name).signature = name := by
  simp [bare, signature, Text.joined]

private theorem eq_of_keys {options : PropDictOptions} (free : token.Free) (free' : other.Free)
    (told : token.args ≠ [] ∨ options.nameKeys = false)
    (keyed : options.Keys other token.signature) : other = token := by
  rcases keyed with ⟨named, name⟩ | ⟨_, same⟩
  -- A name is the signature of a bare token, and the given one would have to be that.
  · have alone : (bare other.name).Free := by
      intro part member
      exact free' part (List.mem_cons.mpr (.inl (List.mem_singleton.mp member)))
    have bared := eq_of_signature_eq alone free ((signature_bare _).trans name)
    rcases told with given | unnamed
    · exact absurd (congrArg Token.args bared).symm given
    · rw [named] at unnamed
      cases unnamed
  · exact eq_of_signature_eq free' free same

private theorem parse_signature_iff :
    parse token.signature = .ok token ↔
      token.Legible ∧ Shorthand.Plain token.signature.toList := by
  rw [parse_eq_ok_iff, Shorthand.exists_trims_encloses_self_iff]

private theorem exists_compile_signature (given : token.args ≠ [])
    (reads : parse token.signature = .ok token) :
    ∃ matcher, (Spec.shorthand token.signature).compile = .ok matcher ∧
      ∀ other, matcher.accepts other = true ↔ other = token := by
  obtain ⟨matcher, compiles⟩ := Criteria.exists_compile_like token
  refine ⟨matcher, ?_, ?_⟩
  · rw [Spec.compile, Spec.toCriteria, Criteria.parse_of_token reads]
    exact compiles
  · intro other
    rw [Criteria.accepts_iff_holds compiles, Criteria.holds_like_iff_eq given]

/-- Tokens without colons are equal when their signatures are. So the entry of a dictionary under
the signature of such a token holds no other one, unless names are keys as well and the signature is
a mere name; and a query for a signature with arguments that reads back finds no other token. A
token is read back from its signature exactly when its name is not empty, no part of it has a colon,
and the signature neither begins nor ends with a blank, nor begins with an opening bracket, nor ends
with a closing one. -/
theorem signature_identifies_token :
    (∀ token other : Token, token.Free → other.Free → token.signature = other.signature →
      token = other) ∧
    (∀ (props : Props) (options : PropDictOptions) (dict : PropDict) (token : Token)
        (value : PropValue), (props.dict options).result = .ok dict → token.Free →
      token.args ≠ [] ∨ options.nameKeys = false → dict.get? token.signature = some value →
      ∀ prop ∈ value.toList, prop.token.Free → prop.token = token) ∧
    (∀ token : Token, token.args ≠ [] → parse token.signature = .ok token →
      ∃ matcher, (Spec.shorthand token.signature).compile = .ok matcher ∧
        ∀ other, matcher.accepts other = true ↔ other = token) ∧
    ∀ token : Token, parse token.signature = .ok token ↔
      token.name ≠ "" ∧ (∀ part ∈ token.name :: token.args, ':' ∉ part.toList) ∧
        (∀ c ∈ token.signature.toList.head?, Text.isBlank c = false ∧ c ≠ '[') ∧
        ∀ c ∈ token.signature.toList.getLast?, Text.isBlank c = false ∧ c ≠ ']' := by
  refine ⟨fun _ _ => eq_of_signature_eq, ?_, fun _ => exists_compile_signature, ?_⟩
  · intro props options dict token value made free told found prop member free'
    obtain ⟨properties, tokens, kept⟩ := Traced.result_bind_eq_ok_iff.mp made
    obtain rfl := Except.ok.inj kept
    have groups := PropDict.groups_ofProps options (Props.pairwise_slots_of_tokens tokens)
    rw [groups.toList_eq _ _ found] at member
    exact eq_of_keys free free' told (of_decide_eq_true (List.mem_filter.mp member).2)
  · intro token
    rw [parse_signature_iff]
    constructor
    · rintro ⟨⟨named, free⟩, begins, ends⟩
      exact ⟨named, free, begins, ends⟩
    · rintro ⟨named, free, begins, ends⟩
      exact ⟨⟨named, free⟩, begins, ends⟩

private def shelter : Source :=
  ⟨0, 0, ⟨"shelter", [.bare "CAT", ⟨"TILE", ["", "1"]⟩, .bare "TILE", ⟨"TILE", ["", "1"]⟩]⟩⟩

private def cat : Props where owner := ⟨shelter, 0, by decide⟩

/-- A signature with an empty argument, shared by two properties. -/
theorem signature_identifies_tile :
    (Token.mk "TILE" ["", "1"]).Free ∧ (Token.mk "TILE" ["", "1"]).args ≠ [] ∧
      parse "TILE::1" = .ok ⟨"TILE", ["", "1"]⟩ ∧
      (∀ other : Token, other.Free → other.signature = "TILE::1" → other = ⟨"TILE", ["", "1"]⟩) ∧
      (∃ dict value, (cat.dict {}).result = .ok dict ∧ dict.get? "TILE::1" = some value ∧
        value.toList ≠ [] ∧ ∀ prop ∈ value.toList, prop.token = ⟨"TILE", ["", "1"]⟩) ∧
      ∃ matcher, (Spec.shorthand "TILE::1").compile = .ok matcher ∧
        ∀ other, matcher.accepts other = true ↔ other = ⟨"TILE", ["", "1"]⟩ := by
  obtain ⟨same, keyed, queried, _⟩ := signature_identifies_token
  have free : (Token.mk "TILE" ["", "1"]).Free := by decide
  have read : parse "TILE::1" = .ok ⟨"TILE", ["", "1"]⟩ := by rfl
  refine ⟨free, by decide, read, ?_, ?_, queried ⟨"TILE", ["", "1"]⟩ (by decide) read⟩
  · exact fun other free' spelled => same other ⟨"TILE", ["", "1"]⟩ free' free spelled
  · have made : (cat.dict {}).result = .ok
        [("TILE",
            .many [⟨shelter, 1, by decide⟩, ⟨shelter, 2, by decide⟩, ⟨shelter, 3, by decide⟩]),
          ("TILE::1", .many [⟨shelter, 1, by decide⟩, ⟨shelter, 3, by decide⟩])] := by decide
    refine ⟨_, _, made, rfl, by decide, ?_⟩
    intro prop member
    have free' : ∀ prop ∈ [(⟨shelter, 1, by decide⟩ : Handle), ⟨shelter, 3, by decide⟩],
        prop.token.Free := by decide
    exact keyed cat {} _ _ _ made free (.inl (by decide)) rfl prop member (free' prop member)

end Token

end TokenQuery
