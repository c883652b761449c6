import TokenQuery.Proofs.Object.Lookups
import TokenQuery.Proofs.Scope.Boundary

/-!
What the readers of a shorthand make of one text: a token, criteria and an object query. Main
statement: they fail together, but that an object has at most one argument, and the criteria and the
query that are read accept the tokens that the token stands for (`readers_agree`).
-/

set_option autoImplicit false

namespace TokenQuery

namespace Criteria

/-- The criteria that ask for the name of a token and, if it has any, for its arguments. -/
def like (token : Token) : Criteria where
  name := some token.name
  args := if token.args.isEmpty then none else some token.args

variable {text : String} {token other : Token}

theorem parse_eq_map (text : String) : parse text = (Token.parse text).map like := by
  unfold parse Token.parse
  cases Shorthand.split text with
  | error error => rfl
  | ok parts => rfl

theorem parse_of_token (reads : Token.parse text = .ok token) : parse text = .ok (like token) := by
  rw [parse_eq_map, reads]
  rfl

private theorem parse_eq_error_iff {error : QueryError} :
    parse text = .error error ↔ Token.parse text = .error error := by
  rw [parse_eq_map]
  cases Token.parse text with
  | error cause => simp only [Except.map, Except.error.injEq]
  | ok token => exact iff_of_false nofun nofun

theorem exists_compile_like (token : Token) : ∃ matcher, (like token).compile = .ok matcher := by
  refine exists_compile_eq_ok_iff.mpr ⟨?_, ?_, nofun, nofun⟩
  · simp [like]
  · simp [like]

private theorem holds_like_iff :
    (like token).Holds other ↔
      other.name = token.name ∧ (token.args = [] ∨ other.args = token.args) := by
  have whole : (∀ args ∈ (like token).args, other.args = args) ↔
      token.args = [] ∨ other.args = token.args := by
    by_cases bare : token.args = []
    · simp [like, bare]
    · simp [like, bare]
  rw [← whole]
  constructor
  · rintro ⟨name, args, _, _, _⟩
    exact ⟨((passes_some_iff.mp name).1 token.name rfl).symm, args⟩
  · rintro ⟨name, args⟩
    refine ⟨passes_some_iff.mpr ⟨?_, nofun, nofun⟩, args, nofun, nofun, nofun⟩
    rintro expected ⟨⟩
    exact name.symm

theorem holds_like_iff_eq (given : token.args ≠ []) : (like token).Holds other ↔ other = token := by
  rw [holds_like_iff]
  constructor
  · rintro ⟨name, bare | args⟩
    · exact absurd bare given
    · obtain ⟨_, _⟩ := other
      obtain ⟨_, _⟩ := token
      exact congrArg₂ Token.mk name args
  · rintro rfl
    exact ⟨rfl, Or.inr rfl⟩

end Criteria

namespace ObjectQuery

/-- The query for the name of a token as the type and its first argument, if it has one, as the
identifier. -/
def naming (token : Token) : ObjectQuery where
  objectType := token.name
  exactId := token.args.head?

variable {text : String} {token other : Token} {query : ObjectQuery} {error : QueryError}

private theorem parse_eq_bind (text : String) :
    parse text = Token.parse text >>= fun token =>
      if token.nargs ≤ 1 then .ok (naming token) else .error (.parse .surplusColon text) := by
  unfold parse Token.parse
  cases Shorthand.split text with
  | error error => rfl
  | ok parts =>
    obtain ⟨name, args⟩ := parts
    match args with
    | [] => rfl
    | [_] => rfl
    | _ :: _ :: _ => rfl

theorem parse_eq_ok_iff :
    parse text = .ok query ↔
      ∃ token, Token.parse text = .ok token ∧ token.nargs ≤ 1 ∧ naming token = query := by
  have counted (token : Token) :
      (if token.nargs ≤ 1 then Except.ok (naming token)
        else Except.error (QueryError.parse .surplusColon text)) = Except.ok query ↔
      token.nargs ≤ 1 ∧ naming token = query := by
    by_cases few : token.nargs ≤ 1
    · simp [few]
    · simp [few]
  rw [parse_eq_bind, bind_eq_ok_iff]
  simp only [counted]

private theorem parse_eq_error_iff :
    parse text = .error error ↔
      Token.parse text = .error error ∨
        ∃ token, Token.parse text = .ok token ∧ 1 < token.nargs ∧
          error = .parse .surplusColon text := by
  rw [parse_eq_bind]
  cases Token.parse text with
  | error cause => simp [bind, Except.bind]
  | ok token =>
    by_cases few : token.nargs ≤ 1
    · have several : ¬ 1 < token.nargs := by omega
      simp [bind, Except.bind, few, several]
    · have several : 1 < token.nargs := by omega
      simp [bind, Except.bind, few, several, eq_comm]

private theorem defines_naming_iff (few : token.nargs ≤ 1) :
    (naming token).Defines other ↔
      other.name = token.name ∧ other.nargs = 1 ∧
        (token.args = [] ∨ other.args = token.args) := by
  have passes (id : String) : Criteria.Passes token.args.head? none none (some id) ↔
      token.args = [] ∨ [id] = token.args := by
    rw [Criteria.passes_some_iff]
    rcases Nat.le_one_iff_eq_zero_or_eq_one.mp few with none_given | one_given
    · have bare : token.args = [] := List.length_eq_zero_iff.mp none_given
      simp [bare]
    · obtain ⟨own, single⟩ := List.length_eq_one_iff.mp one_given
      simp [single, eq_comm]
  constructor
  · rintro ⟨name, id, _, single, passed⟩
    refine ⟨name, ?_, ?_⟩
    · rw [Token.nargs, single, List.length_singleton]
    · rw [single]
      exact (passes id).mp passed
  · rintro ⟨name, one, given⟩
    obtain ⟨id, single⟩ := List.length_eq_one_iff.mp one
    rw [single] at given
    exact ⟨name, id, by simp [single], single, (passes id).mpr given⟩

private theorem defines_naming_iff_holds_like (one : token.nargs = 1) :
    (naming token).Defines other ↔ (Criteria.like token).Holds other := by
  rw [defines_naming_iff (Nat.le_of_eq one), Criteria.holds_like_iff]
  constructor
  · rintro ⟨name, _, args⟩
    exact ⟨name, args⟩
  · rintro ⟨name, bare | args⟩
    · rw [Token.nargs, bare] at one
      cases one
    · refine ⟨name, ?_, Or.inr args⟩
      rw [Token.nargs, args]
      exact one

private theorem exists_compile_naming (token : Token) :
    ∃ matcher, (naming token).criteria.compile = .ok matcher :=
  exists_compile_criteria (by simp [naming]) nofun

end ObjectQuery

/-- A text is read as criteria exactly when it is read as a token, and else refused for the same
cause. The criteria accept the tokens with the name of that token and, if it has arguments, with its
arguments, which is that token only. As an object query the text is read exactly when the token has
at most one argument; the query accepts, of the tokens with one argument, those that the criteria
accept, which are the same where an identifier is given. -/
theorem readers_agree (text : String) :
    (∀ error, Token.parse text = .error error ↔ Criteria.parse text = .error error) ∧
    ((∃ query, ObjectQuery.parse text = .ok query) ↔
      ∃ token, Token.parse text = .ok token ∧ token.nargs ≤ 1) ∧
    (∀ error, ObjectQuery.parse text = .error error ↔
      Token.parse text = .error error ∨
        ∃ token, Token.parse text = .ok token ∧ 1 < token.nargs ∧
          error = .parse .surplusColon text) ∧
    ∀ token, Token.parse text = .ok token →
      ∃ criteria plain, Criteria.parse text = .ok criteria ∧ criteria.compile = .ok plain ∧
        (∀ other, plain.accepts other = true ↔
          other.name = token.name ∧ (token.args = [] ∨ other.args = token.args)) ∧
        (token.args ≠ [] → ∀ other, plain.accepts other = true ↔ other = token) ∧
        (token.nargs ≤ 1 →
          ∃ query matcher, ObjectQuery.parse text = .ok query ∧
            query.criteria.compile = .ok matcher ∧
            (∀ other, matcher.accepts other = true ↔
              other.name = token.name ∧ other.nargs = 1 ∧
                (token.args = [] ∨ other.args = token.args)) ∧
            (token.nargs = 1 → ∀ other, matcher.accepts other = plain.accepts other)) := by
  refine ⟨fun error => Criteria.parse_eq_error_iff.symm, ?_,
    fun error => ObjectQuery.parse_eq_error_iff, ?_⟩
  · simp only [ObjectQuery.parse_eq_ok_iff]
    constructor
    · rintro ⟨_, token, reads, few, _⟩
      exact ⟨token, reads, few⟩
    · rintro ⟨token, reads, few⟩
      exact ⟨_, token, reads, few, rfl⟩
  · intro token reads
    obtain ⟨plain, compiles⟩ := Criteria.exists_compile_like token
    have alike (other : Token) := Criteria.accepts_iff_holds compiles other
    refine ⟨Criteria.like token, plain, Criteria.parse_of_token reads, compiles, ?_, ?_, ?_⟩
    · exact fun other => (alike other).trans Criteria.holds_like_iff
    · exact fun given other => (alike other).trans (Criteria.holds_like_iff_eq given)
    · intro few
      obtain ⟨matcher, compiles'⟩ := ObjectQuery.exists_compile_naming token
      have named (other : Token) := (Resolver.accepts_iff_defines compiles' other).trans
        (ObjectQuery.defines_naming_iff few)
      refine ⟨ObjectQuery.naming token, matcher,
        ObjectQuery.parse_eq_ok_iff.mpr ⟨token, reads, few, rfl⟩, compiles', named, ?_⟩
      intro one other
      rw [Bool.eq_iff_iff, Resolver.accepts_iff_defines compiles', alike,
        ObjectQuery.defines_naming_iff_holds_like one]

/-- A type and an identifier, in brackets and with a blank that belongs to the identifier. -/
theorem readers_agree_on_pair :
    Token.parse " [COLOR: RED]" = .ok ⟨"COLOR", [" RED"]⟩ ∧
      ∃ criteria plain query matcher, Criteria.parse " [COLOR: RED]" = .ok criteria ∧
        criteria.compile = .ok plain ∧ ObjectQuery.parse " [COLOR: RED]" = .ok query ∧
        query.criteria.compile = .ok matcher ∧
        (∀ other, plain.accepts other = true ↔ other = ⟨"COLOR", [" RED"]⟩) ∧
        ∀ other, matcher.accepts other = plain.accepts other := by
  have reads : Token.parse " [COLOR: RED]" = .ok ⟨"COLOR", [" RED"]⟩ := by rfl
  obtain ⟨criteria, plain, parsed, compiles, _, only, objects⟩ := (readers_agree _).2.2.2 _ reads
  obtain ⟨query, matcher, parsed', compiles', _, same⟩ := objects (by decide)
  exact ⟨reads, criteria, plain, query, matcher, parsed, compiles, parsed', compiles',
    only (by decide), same rfl⟩

end TokenQuery
