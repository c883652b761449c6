import TokenQuery.Proofs.Pattern.Anchored
import TokenQuery.Proofs.Scope.Boundary

/-!
Criteria that ask for a pattern. Main statement: with a pattern that closes no group but its own
they compile exactly when the pattern stands by itself, and accept exactly the names and arguments
that the pattern matches from their start (`compile_of_own_groups`). A pattern that closes the group
of the anchor escapes it (`compile_unopened`).
-/

set_option autoImplicit false

namespace TokenQuery

namespace Pattern

/-- The pattern, read by itself, matches some beginning of the text. -/
def MatchesStart (pattern text : String) : Prop :=
  ∃ expr, read pattern.toList = .ok expr ∧
    ∃ u v, text.toList = u ++ v ∧ Expr.Matches expr none u v

variable {pattern text : String}

private theorem reads_iff_standsAlone (own : read pattern.toList ≠ .error .groupUnopened) :
    Reads pattern ↔ StandsAlone pattern.toList := by
  simp only [Reads, anchored_eq_ok_iff own]
  constructor
  · rintro ⟨_, alone, _⟩
    exact alone
  · intro alone
    obtain ⟨inner, reads⟩ := alone.reads
    exact ⟨_, alone, inner, reads, rfl⟩

private theorem finds_iff_matchesStart (own : read pattern.toList ≠ .error .groupUnopened)
    (alone : StandsAlone pattern.toList) : Finds pattern text ↔ MatchesStart pattern text := by
  simp only [Finds, MatchesStart, anchored_eq_ok_iff own]
  constructor
  · rintro ⟨_, ⟨_, inner, reads, rfl⟩, occurs⟩
    exact ⟨inner, reads, occursIn_anchored_iff.mp occurs⟩
  · rintro ⟨inner, reads, begins⟩
    exact ⟨_, ⟨alone, inner, reads, rfl⟩, occursIn_anchored_iff.mpr begins⟩

end Pattern

namespace Criteria

variable {pattern : String} {position : Nat} {token : Token}

private theorem acceptable_withNamePattern_iff :
    (any.withNamePattern pattern).Acceptable ↔ Pattern.Reads pattern := by
  rw [withNamePattern, any, acceptable_named_iff]
  simp

private theorem holds_withNamePattern_iff :
    (any.withNamePattern pattern).Holds token ↔ Pattern.Finds pattern token.name := by
  rw [withNamePattern, any, holds_named_iff, passes_some_iff]
  simp

private theorem acceptable_withArgPattern_iff :
    (any.withArgPattern position pattern).Acceptable ↔ Pattern.Reads pattern := by
  constructor
  · intro acceptable
    exact acceptable.argument_reads _ (.head _) _ rfl
  · intro reads
    refine ⟨nofun, ?_, nofun, ?_⟩
    · rintro _ ⟨_, _, member, _, listed⟩
      obtain rfl := List.mem_singleton.mp member
      cases listed
    · intro test member written set
      obtain rfl := List.mem_singleton.mp member
      obtain rfl := Option.some_inj.mp set
      exact reads

private theorem holds_withArgPattern_iff :
    (any.withArgPattern position pattern).Holds token ↔
      ∃ text, token.arg? position = some text ∧ Pattern.Finds pattern text := by
  constructor
  · intro holds
    exact (holds.argTests _ (.head _)).pattern _ rfl
  · rintro ⟨text, there, finds⟩
    refine ⟨passes_none _, nofun, nofun, ?_, nofun⟩
    intro test member
    obtain rfl := List.mem_singleton.mp member
    refine ⟨nofun, ?_, nofun⟩
    intro written set
    obtain rfl := Option.some_inj.mp set
    exact ⟨text, there, finds⟩

/-- Criteria with a pattern for the name or an argument compile exactly when the pattern reads by
itself, does not end in a comment, and is within the limits also with the anchor around it. They
then accept exactly the tokens with a name or an argument that the pattern matches from the start.
This is so for all patterns that close no group but their own. -/
theorem compile_of_own_groups (pattern : String)
    (own : Pattern.read pattern.toList ≠ .error .groupUnopened) :
    ((∃ matcher, (any.withNamePattern pattern).compile = .ok matcher) ↔
      Pattern.StandsAlone pattern.toList) ∧
    (∀ matcher, (any.withNamePattern pattern).compile = .ok matcher →
      ∀ token, matcher.accepts token = true ↔ Pattern.MatchesStart pattern token.name) ∧
    ∀ position,
      ((∃ matcher, (any.withArgPattern position pattern).compile = .ok matcher) ↔
        Pattern.StandsAlone pattern.toList) ∧
      ∀ matcher, (any.withArgPattern position pattern).compile = .ok matcher →
        ∀ token, matcher.accepts token = true ↔
          ∃ text, token.arg? position = some text ∧ Pattern.MatchesStart pattern text := by
  have named : (∃ matcher, (any.withNamePattern pattern).compile = .ok matcher) ↔
      Pattern.StandsAlone pattern.toList := by
    rw [exists_compile_eq_ok_iff, acceptable_withNamePattern_iff, Pattern.reads_iff_standsAlone own]
  have argued (position : Nat) :
      (∃ matcher, (any.withArgPattern position pattern).compile = .ok matcher) ↔
        Pattern.StandsAlone pattern.toList := by
    rw [exists_compile_eq_ok_iff, acceptable_withArgPattern_iff, Pattern.reads_iff_standsAlone own]
  refine ⟨named, ?_, fun position => ⟨argued position, ?_⟩⟩
  · intro matcher compiled token
    have alone := named.mp ⟨matcher, compiled⟩
    rw [accepts_iff_holds compiled, holds_withNamePattern_iff,
      Pattern.finds_iff_matchesStart own alone]
  · intro matcher compiled token
    have alone := (argued position).mp ⟨matcher, compiled⟩
    rw [accepts_iff_holds compiled, holds_withArgPattern_iff]
    simp only [Pattern.finds_iff_matchesStart own alone]

/-- Both branches of a pattern with a bar in it are matched from the start. -/
theorem compile_branches :
    Pattern.read "A|B".toList ≠ .error .groupUnopened ∧ Pattern.StandsAlone "A|B".toList ∧
      Pattern.MatchesStart "A|B" "BALL" ∧ ¬ Pattern.MatchesStart "A|B" "xBALL" := by
  have own : Pattern.read "A|B".toList ≠ .error .groupUnopened := nofun
  obtain ⟨matcher, compiled⟩ : ∃ matcher, (any.withNamePattern "A|B").compile = .ok matcher :=
    ⟨_, rfl⟩
  obtain ⟨compiles, accepts, _⟩ := compile_of_own_groups "A|B" own
  have tested := accepts matcher compiled
  obtain rfl := Except.ok.inj compiled
  refine ⟨own, compiles.mp ⟨_, rfl⟩, ?_, ?_⟩
  · exact (tested ⟨"BALL", []⟩).mp (by decide)
  · exact mt (tested ⟨"xBALL", []⟩).mpr (by decide)

/-- A pattern that ends the group of the anchor and begins another is none by itself, but it
compiles and is found behind the start of a name. One that ends in a comment is a pattern, but does
not compile. -/
theorem compile_unopened :
    (∀ expr, Pattern.read "a)|(?:b".toList ≠ .ok expr) ∧
      (∃ matcher, (any.withNamePattern "a)|(?:b").compile = .ok matcher ∧
        matcher.accepts ⟨"xb", []⟩ = true) ∧
      (∃ expr, Pattern.read "(?x)A # note".toList = .ok expr) ∧
      ∀ matcher, (any.withNamePattern "(?x)A # note").compile ≠ .ok matcher := by
  refine ⟨nofun, ⟨_, rfl, by decide⟩, ⟨_, rfl⟩, nofun⟩

end Criteria

end TokenQuery
