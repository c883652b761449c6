import TokenQuery.Criteria
import TokenQuery.Proofs.Outcome

/-!
What criteria mean. Main statement: criteria compile exactly when they are acceptable, and their
matcher then accepts exactly the tokens of which they hold (`compile_iff_acceptable`).
-/

set_option autoImplicit false

namespace TokenQuery

namespace Pattern

/-- The pattern reads in its anchored form. -/
def Reads (pattern : String) : Prop := ∃ expr, anchored pattern = .ok expr

/-- The pattern reads in its anchored form, and that form occurs in the text. -/
def Finds (pattern text : String) : Prop :=
  ∃ expr, anchored pattern = .ok expr ∧ expr.occursIn text.toList = true

instance (pattern text : String) : Decidable (Finds pattern text) :=
  match read : anchored pattern with
  | .ok expr => decidable_of_iff (expr.occursIn text.toList = true) (by simp [Finds, read])
  | .error _ => isFalse (by simp [Finds, read])

end Pattern

namespace Criteria

/-- Whatever is set of an exact text, a pattern and a set of texts, the text at hand is there and
passes it. -/
structure Passes (exact pattern : Option String) (oneOf : Option (List String))
    (text : Option String) : Prop where
  exact : ∀ expected ∈ exact, ∃ given ∈ text, expected = given
  pattern : ∀ written ∈ pattern, ∃ given ∈ text, Pattern.Finds written given
  oneOf : ∀ listed ∈ oneOf, ∃ given ∈ text, given ∈ listed

instance (exact pattern : Option String) (oneOf : Option (List String)) (text : Option String) :
    Decidable (Passes exact pattern oneOf text) :=
  decidable_of_iff
    ((∀ expected ∈ exact, ∃ given ∈ text, expected = given) ∧
      (∀ written ∈ pattern, ∃ given ∈ text, Pattern.Finds written given) ∧
      ∀ listed ∈ oneOf, ∃ given ∈ text, given ∈ listed)
    ⟨fun ⟨exact, pattern, oneOf⟩ => ⟨exact, pattern, oneOf⟩,
      fun ⟨exact, pattern, oneOf⟩ => ⟨exact, pattern, oneOf⟩⟩

/-- Every criterion that is set holds of the token. -/
structure Holds (criteria : Criteria) (token : Token) : Prop where
  name : Passes criteria.name criteria.namePattern criteria.nameIn (some token.name)
  args : ∀ args ∈ criteria.args, token.args = args
  argsCount : ∀ count ∈ criteria.argsCount, token.nargs = count
  argTests : ∀ test ∈ criteria.argTests,
    Passes test.exact test.pattern test.oneOf (token.arg? test.position)
  custom : ∀ custom ∈ criteria.custom, custom token = true

/-- Neither the name nor any argument is asked to match a pattern and to be in a set as well, within
one test or across several, and every pattern reads. -/
structure Acceptable (criteria : Criteria) : Prop where
  name_once : ¬ (criteria.namePattern.isSome ∧ criteria.nameIn.isSome)
  argument_once : ∀ position,
    ¬ ((∃ test ∈ criteria.argTests, test.position = position ∧ test.pattern.isSome) ∧
      ∃ test ∈ criteria.argTests, test.position = position ∧ test.oneOf.isSome)
  name_reads : ∀ pattern ∈ criteria.namePattern, Pattern.Reads pattern
  argument_reads : ∀ test ∈ criteria.argTests, ∀ pattern ∈ test.pattern, Pattern.Reads pattern

variable {exact pattern : Option String} {oneOf : Option (List String)} {texts : List TextTest}
  {all : List ArgTest} {test : ArgTest} {tests : List (Nat × TextTest)} {criteria : Criteria}
  {matcher : Matcher}

private theorem readPattern_eq_ok_iff {written : String} {read : TextTest} :
    readPattern written = .ok read ↔
      ∃ expr, Pattern.anchored written = .ok expr ∧ read = .pattern expr := by
  unfold readPattern
  cases Pattern.anchored written with
  | error cause => simp
  | ok expr => simp [eq_comm]

private theorem textTests_eq_ok_iff :
    textTests exact pattern oneOf = .ok texts ↔
      ∃ patterns, pattern.toList.mapM readPattern = .ok patterns ∧
        texts = exact.toList.map .exact ++ patterns ++ oneOf.toList.map .oneOf := by
  simp only [textTests, bind_eq_ok_iff, pure_eq_ok_iff]

private theorem exists_textTests_eq_ok_iff (exact pattern : Option String)
    (oneOf : Option (List String)) :
    (∃ texts, textTests exact pattern oneOf = .ok texts) ↔
      ∀ written ∈ pattern, Pattern.Reads written := by
  have reads (written : String) :
      (∃ read, readPattern written = .ok read) ↔ Pattern.Reads written := by
    simp only [readPattern_eq_ok_iff, Pattern.Reads]
    constructor
    · rintro ⟨_, expr, reads, _⟩
      exact ⟨expr, reads⟩
    · rintro ⟨expr, reads⟩
      exact ⟨_, expr, reads, rfl⟩
  have made : (∃ texts, textTests exact pattern oneOf = .ok texts) ↔
      ∃ patterns, pattern.toList.mapM readPattern = .ok patterns := by
    simp only [textTests_eq_ok_iff]
    constructor
    · rintro ⟨_, patterns, done, _⟩
      exact ⟨patterns, done⟩
    · rintro ⟨patterns, done⟩
      exact ⟨_, patterns, done, rfl⟩
  rw [made, exists_mapM_eq_ok_iff]
  simp only [reads, Option.mem_toList, Option.mem_def]

private theorem textTests_accept_iff (made : textTests exact pattern oneOf = .ok texts)
    (text : Option String) :
    (∀ test ∈ texts, text.any test.accepts = true) ↔ Passes exact pattern oneOf text := by
  obtain ⟨patterns, read, rfl⟩ := textTests_eq_ok_iff.mp made
  have equal (expected : String) :
      text.any (TextTest.exact expected).accepts = true ↔ ∃ given ∈ text, expected = given := by
    simp only [Option.any_eq_true, TextTest.accepts, beq_iff_eq, Option.mem_def]
  have found (written : String) (test : TextTest) (reads : readPattern written = .ok test) :
      text.any test.accepts = true ↔ ∃ given ∈ text, Pattern.Finds written given := by
    obtain ⟨expr, anchored, rfl⟩ := readPattern_eq_ok_iff.mp reads
    simp [Option.any_eq_true, TextTest.accepts, Pattern.Finds, anchored]
  have listed (values : List String) :
      text.any (TextTest.oneOf values).accepts = true ↔ ∃ given ∈ text, given ∈ values := by
    simp only [Option.any_eq_true, TextTest.accepts, List.contains_iff_mem, Option.mem_def]
  simp only [List.forall_mem_append, List.forall_mem_map, forall_mem_of_mapM_eq_ok found read,
    equal, listed, Option.mem_toList]
  constructor
  · rintro ⟨⟨exact, pattern⟩, oneOf⟩
    exact ⟨exact, pattern, oneOf⟩
  · rintro ⟨exact, pattern, oneOf⟩
    exact ⟨⟨exact, pattern⟩, oneOf⟩

private theorem clashes_eq_true_iff {position : Nat} :
    clashes all position = true ↔
      (∃ test ∈ all, test.position = position ∧ test.pattern.isSome) ∧
        ∃ test ∈ all, test.position = position ∧ test.oneOf.isSome := by
  simp only [clashes, Bool.and_eq_true, List.any_eq_true, beq_iff_eq]

private theorem compileTest_eq_ok_iff :
    compileTest all test = .ok tests ↔
      clashes all test.position = false ∧
        ∃ texts, textTests test.exact test.pattern test.oneOf = .ok texts ∧
          tests = texts.map (test.position, ·) := by
  unfold compileTest
  cases clashes all test.position with
  | true => simp [throw, throwThe, MonadExceptOf.throw, bind, Except.bind]
  | false =>
    simp only [Bool.false_eq_true, if_false, bind_eq_ok_iff, pure_eq_ok_iff, true_and]

private theorem compile_eq_ok_iff :
    criteria.compile = .ok matcher ↔
      ¬ (criteria.namePattern.isSome ∧ criteria.nameIn.isSome) ∧
        ∃ name groups,
          textTests criteria.name criteria.namePattern criteria.nameIn = .ok name ∧
          criteria.argTests.mapM (compileTest criteria.argTests) = .ok groups ∧
          matcher = {
            name
            args := criteria.args
            argTests := groups.flatten
            argsCount := criteria.argsCount
            custom := criteria.custom } := by
  rw [← Bool.and_eq_true]
  unfold compile
  -- The check comes before anything is read, so the error of a pattern never hides a conflict.
  cases criteria.namePattern.isSome && criteria.nameIn.isSome with
  | true => simp [throw, throwThe, MonadExceptOf.throw, bind, Except.bind]
  | false =>
    simp only [Bool.false_eq_true, if_false, bind_eq_ok_iff, pure_eq_ok_iff, not_false_eq_true,
      true_and, exists_and_left]

private theorem exists_compileTest_eq_ok_iff :
    (∃ tests, compileTest all test = .ok tests) ↔
      clashes all test.position = false ∧ ∀ written ∈ test.pattern, Pattern.Reads written := by
  rw [← exists_textTests_eq_ok_iff test.exact test.pattern test.oneOf]
  simp only [compileTest_eq_ok_iff]
  constructor
  · rintro ⟨_, once, texts, made, _⟩
    exact ⟨once, texts, made⟩
  · rintro ⟨once, texts, made⟩
    exact ⟨_, once, texts, made, rfl⟩

private theorem compileTest_accept_iff (compiled : compileTest all test = .ok tests)
    (token : Token) :
    (∀ entry ∈ tests, (token.arg? entry.1).any entry.2.accepts = true) ↔
      Passes test.exact test.pattern test.oneOf (token.arg? test.position) := by
  obtain ⟨_, texts, made, rfl⟩ := compileTest_eq_ok_iff.mp compiled
  rw [List.forall_mem_map]
  exact textTests_accept_iff made (token.arg? test.position)

private theorem forall_clashes_eq_false_iff :
    (∀ test ∈ all, clashes all test.position = false) ↔
      ∀ position, ¬ ((∃ test ∈ all, test.position = position ∧ test.pattern.isSome) ∧
        ∃ test ∈ all, test.position = position ∧ test.oneOf.isSome) := by
  simp only [← clashes_eq_true_iff, Bool.not_eq_true]
  constructor
  · intro once position
    cases clash : clashes all position with
    | false => rfl
    | true =>
      obtain ⟨⟨test, member, rfl, _⟩, _⟩ := clashes_eq_true_iff.mp clash
      rw [← clash, once test member]
  · intro once test _
    exact once test.position

theorem exists_compile_eq_ok_iff :
    (∃ matcher, criteria.compile = .ok matcher) ↔ criteria.Acceptable := by
  have argumentTests :
      (∃ groups, criteria.argTests.mapM (compileTest criteria.argTests) = .ok groups) ↔
        (∀ test ∈ criteria.argTests, clashes criteria.argTests test.position = false) ∧
          ∀ test ∈ criteria.argTests, ∀ written ∈ test.pattern, Pattern.Reads written := by
    simp only [exists_mapM_eq_ok_iff, exists_compileTest_eq_ok_iff, imp_and, forall_and]
  simp only [compile_eq_ok_iff]
  constructor
  · rintro ⟨_, name_once, name, groups, named, grouped, _⟩
    obtain ⟨once, reads⟩ := argumentTests.mp ⟨groups, grouped⟩
    exact ⟨name_once, forall_clashes_eq_false_iff.mp once,
      (exists_textTests_eq_ok_iff _ _ _).mp ⟨name, named⟩, reads⟩
  · rintro ⟨name_once, argument_once, name_reads, argument_reads⟩
    obtain ⟨name, named⟩ :=
      (exists_textTests_eq_ok_iff criteria.name criteria.namePattern criteria.nameIn).mpr name_reads
    obtain ⟨groups, grouped⟩ :=
      argumentTests.mpr ⟨forall_clashes_eq_false_iff.mpr argument_once, argument_reads⟩
    exact ⟨_, name_once, name, groups, named, grouped, rfl⟩

theorem accepts_iff_holds (compiled : criteria.compile = .ok matcher) (token : Token) :
    matcher.accepts token = true ↔ criteria.Holds token := by
  obtain ⟨_, name, groups, named, grouped, rfl⟩ := compile_eq_ok_iff.mp compiled
  have nameTests : (∀ test ∈ name, test.accepts token.name = true) ↔
      Passes criteria.name criteria.namePattern criteria.nameIn (some token.name) :=
    textTests_accept_iff named (some token.name)
  -- The entries of all tests are in one list, but each test answers for its own group of them.
  have argumentTests :
      (∀ entry ∈ groups.flatten, (token.arg? entry.1).any entry.2.accepts = true) ↔
        ∀ test ∈ criteria.argTests,
          Passes test.exact test.pattern test.oneOf (token.arg? test.position) := by
    rw [List.forall_mem_flatten]
    exact forall_mem_of_mapM_eq_ok (fun _ _ one => compileTest_accept_iff one token) grouped
  simp only [Matcher.accepts, Bool.and_eq_true, List.all_eq_true, nameTests, argumentTests,
    Option.all_eq_true, beq_iff_eq]
  constructor
  · rintro ⟨⟨⟨⟨name, argsCount⟩, args⟩, argTests⟩, custom⟩
    exact ⟨name, fun given set => (args given set).symm,
      fun count set => (argsCount count set).symm, argTests, custom⟩
  · rintro ⟨name, args, argsCount, argTests, custom⟩
    exact ⟨⟨⟨⟨name, fun count set => (argsCount count set).symm⟩,
      fun given set => (args given set).symm⟩, argTests⟩, custom⟩

private theorem acceptable_iff_without_blank {position : Nat} {before after : List ArgTest}
    (tests : criteria.argTests = before ++ { position := position } :: after) :
    criteria.Acceptable ↔ { criteria with argTests := before ++ after }.Acceptable := by
  obtain ⟨name, namePattern, nameIn, args, argTests, argsCount, custom⟩ := criteria
  obtain rfl : argTests = before ++ { position := position } :: after := tests
  constructor
  · rintro ⟨name_once, argument_once, name_reads, argument_reads⟩
    refine ⟨name_once, ?_, name_reads, ?_⟩
    · simpa [or_and_right, exists_or] using argument_once
    · simpa [or_imp, forall_and] using argument_reads
  · rintro ⟨name_once, argument_once, name_reads, argument_reads⟩
    refine ⟨name_once, ?_, name_reads, ?_⟩
    · simpa [or_and_right, exists_or] using argument_once
    · simpa [or_imp, forall_and] using argument_reads

theorem passes_none (text : Option String) : Passes none none none text := ⟨nofun, nofun, nofun⟩

private theorem holds_iff_without_blank {position : Nat} {before after : List ArgTest}
    (tests : criteria.argTests = before ++ { position := position } :: after) (token : Token) :
    criteria.Holds token ↔ { criteria with argTests := before ++ after }.Holds token := by
  obtain ⟨name, namePattern, nameIn, args, argTests, argsCount, custom⟩ := criteria
  obtain rfl : argTests = before ++ { position := position } :: after := tests
  constructor
  · rintro ⟨name, args, argsCount, argTests, custom⟩
    refine ⟨name, args, argsCount, ?_, custom⟩
    simpa [or_imp, forall_and, passes_none] using argTests
  · rintro ⟨name, args, argsCount, argTests, custom⟩
    refine ⟨name, args, argsCount, ?_, custom⟩
    simpa [or_imp, forall_and, passes_none] using argTests

/-- Criteria compile exactly when they are acceptable, and the matcher accepts exactly the tokens of
which they hold. A test of an argument that sets nothing changes neither. -/
theorem compile_iff_acceptable (criteria : Criteria) :
    ((∃ matcher, criteria.compile = .ok matcher) ↔ criteria.Acceptable) ∧
    (∀ matcher, criteria.compile = .ok matcher →
      ∀ token, matcher.accepts token = true ↔ criteria.Holds token) ∧
    ∀ position before after, criteria.argTests = before ++ { position := position } :: after →
      ((∃ matcher, criteria.compile = .ok matcher) ↔
        ∃ matcher, { criteria with argTests := before ++ after }.compile = .ok matcher) ∧
      ∀ matcher other, criteria.compile = .ok matcher →
        { criteria with argTests := before ++ after }.compile = .ok other →
        ∀ token, matcher.accepts token = other.accepts token := by
  refine ⟨exists_compile_eq_ok_iff, fun _ => accepts_iff_holds, ?_⟩
  intro position before after tests
  constructor
  · rw [exists_compile_eq_ok_iff, exists_compile_eq_ok_iff, acceptable_iff_without_blank tests]
  · intro matcher other compiled without token
    rw [Bool.eq_iff_iff, accepts_iff_holds compiled, accepts_iff_holds without,
      holds_iff_without_blank tests]

/-- Tests of one position in two places, with one that sets nothing between them. -/
private def scattered : Criteria where
  namePattern := some "[A-C]"
  argTests := [{ position := 1, pattern := some "x+" }, { position := 7 },
    { position := 1, exact := some "xy" }]
  argsCount := some 2

/-- The pattern matches from the start, and the position that nothing is asked of may be missing. -/
theorem compile_scattered :
    (∃ matcher, scattered.compile = .ok matcher) ∧ scattered.Acceptable ∧
      scattered.Holds ⟨"BALL", ["", "xy"]⟩ ∧ ¬ scattered.Holds ⟨"BALL", ["xy", "x"]⟩ ∧
      ¬ scattered.Holds ⟨"xBALL", ["", "xy"]⟩ := by
  obtain ⟨matcher, compiled⟩ : ∃ matcher, scattered.compile = .ok matcher := ⟨_, rfl⟩
  have accepts := (compile_iff_acceptable scattered).2.1 matcher compiled
  obtain rfl := Except.ok.inj compiled
  refine ⟨⟨_, rfl⟩, (compile_iff_acceptable scattered).1.mp ⟨_, rfl⟩, ?_, ?_, ?_⟩
  · exact (accepts _).mp (by decide)
  · exact mt (accepts _).mpr (by decide)
  · exact mt (accepts _).mpr (by decide)

end Criteria

end TokenQuery
