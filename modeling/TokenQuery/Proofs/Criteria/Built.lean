import Mathlib.Data.List.Induction
import TokenQuery.Proofs.Criteria.Meaning

/-!
Criteria built by calls, each of which writes one slot. Main statement: criteria whose calls agree
on the last value of every slot compile together and match the same tokens, in whatever order the
calls were made, and hold at most one test for each position (`built_agree_of_lastAt_eq`).
-/

set_option autoImplicit false

namespace TokenQuery

/-- What one call asks of an argument. -/
inductive Demand where
  | exact (text : String)
  | pattern (pattern : String)
  | oneOf (texts : List String)

/-- The kinds of demands, each of which a test of an argument holds at most once. -/
inductive Demand.Kind where
  | exact
  | pattern
  | oneOf
  deriving DecidableEq

/-- The kind of a demand. -/
def Demand.kind : Demand → Kind
  | exact _ => .exact
  | pattern _ => .pattern
  | oneOf _ => .oneOf

namespace ArgTest

/-- The test with a demand, in the place of one of the same kind. -/
def ask (test : ArgTest) : Demand → ArgTest
  | .exact text => { test with exact := some text }
  | .pattern pattern => { test with pattern := some pattern }
  | .oneOf texts => { test with oneOf := some texts }

/-- The demand of a kind that the test makes. -/
def demand? (test : ArgTest) : Demand.Kind → Option Demand
  | .exact => test.exact.map .exact
  | .pattern => test.pattern.map .pattern
  | .oneOf => test.oneOf.map .oneOf

@[simp] theorem position_ask (test : ArgTest) (demand : Demand) :
    (test.ask demand).position = test.position := by
  cases demand <;> rfl

private theorem demand?_ask (test : ArgTest) (demand : Demand) (kind : Demand.Kind) :
    (test.ask demand).demand? kind =
      if demand.kind = kind then some demand else test.demand? kind := by
  cases demand <;> cases kind <;> rfl

private theorem eq_of_demand?_eq {test other : ArgTest} (position : test.position = other.position)
    (demands : ∀ kind, test.demand? kind = other.demand? kind) : test = other := by
  obtain ⟨_, exact, pattern, oneOf⟩ := test
  obtain ⟨_, exact', pattern', oneOf'⟩ := other
  obtain rfl : exact = exact' :=
    Option.map_injective (fun _ _ => Demand.exact.inj) (demands .exact)
  obtain rfl : pattern = pattern' :=
    Option.map_injective (fun _ _ => Demand.pattern.inj) (demands .pattern)
  obtain rfl : oneOf = oneOf' :=
    Option.map_injective (fun _ _ => Demand.oneOf.inj) (demands .oneOf)
  obtain rfl := position
  rfl

end ArgTest

namespace Criteria

/-- A call that asks for one more thing, or for another one in its place. -/
inductive Call where
  | name (name : String)
  | namePattern (pattern : String)
  | nameIn (names : List String)
  | args (args : List String)
  | argsCount (count : Nat)
  | matching (custom : Token → Bool)
  | argument (position : Nat) (demand : Demand)

/-- A part of criteria that holds at most one value. -/
inductive Slot where
  | name
  | namePattern
  | nameIn
  | args
  | argsCount
  | custom
  | argument (position : Nat) (kind : Demand.Kind)
  deriving DecidableEq

namespace Call

/-- The slot that a call writes. -/
def slot : Call → Slot
  | name _ => .name
  | namePattern _ => .namePattern
  | nameIn _ => .nameIn
  | args _ => .args
  | argsCount _ => .argsCount
  | matching _ => .custom
  | argument position demand => .argument position demand.kind

/-- The criteria after a call. -/
def perform (criteria : Criteria) : Call → Criteria
  | name given => criteria.withName given
  | namePattern pattern => criteria.withNamePattern pattern
  | nameIn names => criteria.withNameIn names
  | args given => criteria.withArgs given
  | argsCount count => criteria.withArgsCount count
  | matching custom => criteria.matching custom
  | argument position (.exact text) => criteria.withArg position text
  | argument position (.pattern pattern) => criteria.withArgPattern position pattern
  | argument position (.oneOf texts) => criteria.withArgIn position texts

end Call

/-- The criteria that calls build, one after another. -/
def built (calls : List Call) : Criteria := calls.foldl Call.perform any

/-- The last of some calls that writes a slot. -/
def lastAt (slot : Slot) (calls : List Call) : Option Call :=
  (calls.filter (·.slot = slot)).getLast?

/-- The first test of a position, or one that sets nothing where the position has none. -/
def testOf (tests : List ArgTest) (position : Nat) : ArgTest :=
  (tests.find? (·.position = position)).getD { position }

/-- What stands in a slot, as the call that writes it. -/
def valueAt (criteria : Criteria) : Slot → Option Call
  | .name => criteria.name.map .name
  | .namePattern => criteria.namePattern.map .namePattern
  | .nameIn => criteria.nameIn.map .nameIn
  | .args => criteria.args.map .args
  | .argsCount => criteria.argsCount.map .argsCount
  | .custom => criteria.custom.map .matching
  | .argument position kind =>
    ((testOf criteria.argTests position).demand? kind).map (.argument position)

/-- No position has two tests. -/
def TestsOnce (criteria : Criteria) : Prop := (criteria.argTests.map (·.position)).Nodup

/-- Both criteria compile or neither does, and when they do their matchers accept the same
tokens. -/
structure Agree (criteria other : Criteria) : Prop where
  compile_iff : (∃ matcher, criteria.compile = .ok matcher) ↔
    ∃ matcher, other.compile = .ok matcher
  accepts_eq : ∀ matcher matcher', criteria.compile = .ok matcher →
    other.compile = .ok matcher' → ∀ token, matcher.accepts token = matcher'.accepts token

variable {criteria other : Criteria} {tests : List ArgTest} {slot : Slot} {calls : List Call}
  {call : Call}

private theorem testOf_cons (test : ArgTest) (rest : List ArgTest) (position : Nat) :
    testOf (test :: rest) position =
      if test.position = position then test else testOf rest position := by
  unfold testOf
  rw [List.find?_cons]
  by_cases here : test.position = position
  · simp [here]
  · simp [here]

@[simp] theorem position_testOf (tests : List ArgTest) (position : Nat) :
    (testOf tests position).position = position := by
  induction tests with
  | nil => rfl
  | cons test rest ih =>
    rw [testOf_cons]
    split
    · assumption
    · exact ih

private theorem testOf_modifyTest (at' : Nat) (demand : Demand) (tests : List ArgTest)
    (position : Nat) :
    testOf (modifyTest at' (·.ask demand) tests) position =
      if at' = position then (testOf tests position).ask demand else testOf tests position := by
  induction tests with
  | nil =>
    rw [modifyTest, testOf_cons, ArgTest.position_ask]
    by_cases here : at' = position
    · subst here
      rfl
    · rw [if_neg here, if_neg here]
  | cons test rest ih =>
    rw [modifyTest]
    by_cases own : test.position = at'
    · rw [if_pos own, testOf_cons, testOf_cons, ArgTest.position_ask, own]
      by_cases here : at' = position
      · rw [if_pos here, if_pos here, if_pos here]
      · rw [if_neg here, if_neg here, if_neg here]
    · rw [if_neg own, testOf_cons, testOf_cons, ih]
      by_cases here : at' = position
      · have elsewhere : ¬ test.position = position := here ▸ own
        rw [if_pos here, if_neg elsewhere, if_pos here, if_neg elsewhere]
      · rw [if_neg here, if_neg here]

private theorem map_position_modifyTest (at' : Nat) (demand : Demand) (tests : List ArgTest) :
    (modifyTest at' (·.ask demand) tests).map (·.position) =
      if at' ∈ tests.map (·.position) then tests.map (·.position)
      else tests.map (·.position) ++ [at'] := by
  induction tests with
  | nil => simp [modifyTest]
  | cons test rest ih =>
    by_cases own : test.position = at'
    · simp [modifyTest, own]
    · have differs : ¬ at' = test.position := Ne.symm own
      simp only [modifyTest, if_neg own, List.map_cons, ih, List.mem_cons, differs, false_or]
      split <;> simp

private theorem perform_argument (criteria : Criteria) (position : Nat) (demand : Demand) :
    (Call.argument position demand).perform criteria =
      { criteria with argTests := modifyTest position (·.ask demand) criteria.argTests } := by
  cases demand <;> rfl

theorem TestsOnce.perform (once : criteria.TestsOnce) (call : Call) :
    (call.perform criteria).TestsOnce := by
  cases call with
  | name | namePattern | nameIn | args | argsCount | matching => exact once
  | argument position demand =>
    rw [perform_argument, TestsOnce, map_position_modifyTest]
    split
    · exact once
    · rename_i absent
      refine List.nodup_append.mpr ⟨once, by simp, ?_⟩
      intro own member other single same
      rw [same, List.mem_singleton.mp single] at member
      exact absent member

private theorem valueAt_perform_self (criteria : Criteria) (call : Call) :
    (call.perform criteria).valueAt call.slot = some call := by
  cases call with
  | name | namePattern | nameIn | args | argsCount | matching => rfl
  | argument position demand =>
    rw [perform_argument, Call.slot, valueAt, testOf_modifyTest, if_pos rfl, ArgTest.demand?_ask,
      if_pos rfl, Option.map_some]

private theorem valueAt_perform_of_ne (criteria : Criteria) (differs : call.slot ≠ slot) :
    (call.perform criteria).valueAt slot = criteria.valueAt slot := by
  cases call with
  | name => cases slot with
    | name => exact absurd rfl differs
    | _ => rfl
  | namePattern => cases slot with
    | namePattern => exact absurd rfl differs
    | _ => rfl
  | nameIn => cases slot with
    | nameIn => exact absurd rfl differs
    | _ => rfl
  | args => cases slot with
    | args => exact absurd rfl differs
    | _ => rfl
  | argsCount => cases slot with
    | argsCount => exact absurd rfl differs
    | _ => rfl
  | matching => cases slot with
    | custom => exact absurd rfl differs
    | _ => rfl
  | argument at' demand =>
    rw [perform_argument]
    cases slot with
    | argument position kind =>
      rw [valueAt, valueAt, testOf_modifyTest]
      by_cases here : at' = position
      · have otherKind : demand.kind ≠ kind := by
          rintro rfl
          exact differs (congrArg (Slot.argument · demand.kind) here)
        rw [if_pos here, ArgTest.demand?_ask, if_neg otherKind]
      · rw [if_neg here]
    | _ => rfl

private theorem built_concat (calls : List Call) (call : Call) :
    built (calls ++ [call]) = call.perform (built calls) := List.foldl_concat ..

private theorem testsOnce_built (calls : List Call) : (built calls).TestsOnce := by
  induction calls using List.reverseRecOn with
  | nil => exact List.nodup_nil
  | append_singleton calls call ih =>
    rw [built_concat]
    exact ih.perform call

/-- After any calls each slot holds what the last call to it wrote, whatever came between. -/
private theorem valueAt_built (calls : List Call) (slot : Slot) :
    (built calls).valueAt slot = lastAt slot calls := by
  induction calls using List.reverseRecOn with
  | nil => cases slot with
    | argument position kind => cases kind <;> rfl
    | _ => rfl
  | append_singleton calls call ih =>
    rw [built_concat, lastAt, List.filter_append, List.filter_singleton]
    by_cases own : call.slot = slot
    · subst own
      simp [valueAt_perform_self]
    · rw [valueAt_perform_of_ne _ own, ih, lastAt]
      simp [own]

private theorem testOf_of_mem {test : ArgTest} (once : (tests.map (·.position)).Nodup)
    (member : test ∈ tests) : testOf tests test.position = test := by
  induction tests with
  | nil => cases member
  | cons first rest ih =>
    rw [List.map_cons, List.nodup_cons] at once
    rw [testOf_cons]
    rcases List.mem_cons.mp member with rfl | later
    · rw [if_pos rfl]
    · have elsewhere : first.position ≠ test.position := by
        intro same
        exact once.1 (same ▸ List.mem_map_of_mem later)
      rw [if_neg elsewhere, ih once.2 later]

private theorem testOf_cases (tests : List ArgTest) (position : Nat) :
    testOf tests position ∈ tests ∨ testOf tests position = { position } := by
  unfold testOf
  cases found : tests.find? (·.position = position) with
  | none => exact Or.inr rfl
  | some test => exact Or.inl (List.mem_of_find?_eq_some found)

private theorem TestsOnce.forall_mem_iff (once : criteria.TestsOnce) (holds : ArgTest → Prop)
    (blank : ∀ position, holds { position }) :
    (∀ test ∈ criteria.argTests, holds test) ↔
      ∀ position, holds (testOf criteria.argTests position) := by
  constructor
  · intro all position
    rcases testOf_cases criteria.argTests position with member | unset
    · exact all _ member
    · rw [unset]
      exact blank position
  · intro all test member
    rw [← testOf_of_mem once member]
    exact all test.position

private theorem TestsOnce.exists_mem_iff (once : criteria.TestsOnce) (sets : ArgTest → Prop)
    (blank : ∀ position, ¬ sets { position }) (position : Nat) :
    (∃ test ∈ criteria.argTests, test.position = position ∧ sets test) ↔
      sets (testOf criteria.argTests position) := by
  constructor
  · rintro ⟨test, member, rfl, set⟩
    rwa [testOf_of_mem once member]
  · intro set
    rcases testOf_cases criteria.argTests position with member | unset
    · exact ⟨_, member, position_testOf _ _, set⟩
    · rw [unset] at set
      exact absurd set (blank position)

private theorem TestsOnce.acceptable_iff (once : criteria.TestsOnce) :
    criteria.Acceptable ↔
      ¬ (criteria.namePattern.isSome ∧ criteria.nameIn.isSome) ∧
      (∀ position, ¬ ((testOf criteria.argTests position).pattern.isSome ∧
        (testOf criteria.argTests position).oneOf.isSome)) ∧
      (∀ pattern ∈ criteria.namePattern, Pattern.Reads pattern) ∧
      ∀ position, ∀ pattern ∈ (testOf criteria.argTests position).pattern,
        Pattern.Reads pattern := by
  rw [← once.forall_mem_iff (fun test => ∀ pattern ∈ test.pattern, Pattern.Reads pattern)
    fun _ => nofun]
  simp only [← once.exists_mem_iff (·.pattern.isSome) fun _ => nofun,
    ← once.exists_mem_iff (·.oneOf.isSome) fun _ => nofun]
  constructor
  · rintro ⟨name_once, argument_once, name_reads, argument_reads⟩
    exact ⟨name_once, argument_once, name_reads, argument_reads⟩
  · rintro ⟨name_once, argument_once, name_reads, argument_reads⟩
    exact ⟨name_once, argument_once, name_reads, argument_reads⟩

theorem TestsOnce.holds_iff (once : criteria.TestsOnce) (token : Token) :
    criteria.Holds token ↔
      Passes criteria.name criteria.namePattern criteria.nameIn (some token.name) ∧
      (∀ args ∈ criteria.args, token.args = args) ∧
      (∀ count ∈ criteria.argsCount, token.nargs = count) ∧
      (∀ position, Passes (testOf criteria.argTests position).exact
        (testOf criteria.argTests position).pattern (testOf criteria.argTests position).oneOf
        (token.arg? position)) ∧
      ∀ custom ∈ criteria.custom, custom token = true := by
  have tests := once.forall_mem_iff
    (fun test => Passes test.exact test.pattern test.oneOf (token.arg? test.position))
    fun position => passes_none (token.arg? position)
  simp only [position_testOf] at tests
  rw [← tests]
  constructor
  · rintro ⟨name, args, argsCount, argTests, custom⟩
    exact ⟨name, args, argsCount, argTests, custom⟩
  · rintro ⟨name, args, argsCount, argTests, custom⟩
    exact ⟨name, args, argsCount, argTests, custom⟩

/-- Criteria with at most one test for each position are known by their slots, in whatever order
their tests stand. -/
private theorem agree_of_valueAt_eq (once : criteria.TestsOnce) (once' : other.TestsOnce)
    (same : ∀ slot, criteria.valueAt slot = other.valueAt slot) : Agree criteria other := by
  have name : criteria.name = other.name :=
    Option.map_injective (fun _ _ => Call.name.inj) (same .name)
  have namePattern : criteria.namePattern = other.namePattern :=
    Option.map_injective (fun _ _ => Call.namePattern.inj) (same .namePattern)
  have nameIn : criteria.nameIn = other.nameIn :=
    Option.map_injective (fun _ _ => Call.nameIn.inj) (same .nameIn)
  have args : criteria.args = other.args :=
    Option.map_injective (fun _ _ => Call.args.inj) (same .args)
  have argsCount : criteria.argsCount = other.argsCount :=
    Option.map_injective (fun _ _ => Call.argsCount.inj) (same .argsCount)
  have custom : criteria.custom = other.custom :=
    Option.map_injective (fun _ _ => Call.matching.inj) (same .custom)
  have tests : testOf criteria.argTests = testOf other.argTests := by
    funext position
    refine ArgTest.eq_of_demand?_eq ?_ fun kind => ?_
    · rw [position_testOf, position_testOf]
    · exact Option.map_injective (fun _ _ demands => (Call.argument.inj demands).2)
        (same (.argument position kind))
  constructor
  · rw [exists_compile_eq_ok_iff, exists_compile_eq_ok_iff, once.acceptable_iff,
      once'.acceptable_iff, namePattern, nameIn, tests]
  · intro matcher matcher' compiled compiled' token
    rw [Bool.eq_iff_iff, accepts_iff_holds compiled, accepts_iff_holds compiled',
      once.holds_iff, once'.holds_iff, name, namePattern, nameIn, args, argsCount, custom, tests]

private theorem agree_of_lastAt_eq {others : List Call}
    (same : ∀ slot, lastAt slot calls = lastAt slot others) :
    Agree (built calls) (built others) := by
  refine agree_of_valueAt_eq (testsOnce_built calls) (testsOnce_built others) fun slot => ?_
  rw [valueAt_built, valueAt_built, same]

private theorem lastAt_append (slot : Slot) (before after : List Call) :
    lastAt slot (before ++ after) = (lastAt slot after).or (lastAt slot before) := by
  rw [lastAt, List.filter_append, List.getLast?_append, lastAt, lastAt]

private theorem lastAt_pair_comm {other : Call} (differ : call.slot ≠ other.slot) (slot : Slot) :
    lastAt slot [call, other] = lastAt slot [other, call] := by
  by_cases own : call.slot = slot
  · have elsewhere : other.slot ≠ slot := fun same => differ (own.trans same.symm)
    simp [lastAt, own, elsewhere]
  · simp [lastAt, List.filter_cons, own]

private theorem lastAt_overwritten {other : Call} (same : call.slot = other.slot) (slot : Slot) :
    lastAt slot (call :: (calls ++ [other])) = lastAt slot (calls ++ [other]) := by
  rw [← List.singleton_append, lastAt_append, lastAt_append slot calls]
  by_cases own : other.slot = slot
  · simp [lastAt, own]
  · have elsewhere : call.slot ≠ slot := same ▸ own
    simp [lastAt, own, elsewhere]

/-- Calls that agree on the last value of every slot build criteria that compile together and match
the same tokens. So calls to different slots commute, and a call overwrites an earlier one to its
slot. What is built holds in each slot what the last call wrote there, and has at most one test for
each position. -/
theorem built_agree_of_lastAt_eq :
    (∀ calls others : List Call, (∀ slot, lastAt slot calls = lastAt slot others) →
      Agree (built calls) (built others)) ∧
    (∀ (before after : List Call) (call other : Call), call.slot ≠ other.slot →
      Agree (built (before ++ [call, other] ++ after)) (built (before ++ [other, call] ++ after))) ∧
    (∀ (before between after : List Call) (call other : Call), call.slot = other.slot →
      Agree (built (before ++ call :: (between ++ [other]) ++ after))
        (built (before ++ (between ++ [other]) ++ after))) ∧
    ∀ calls, (built calls).TestsOnce ∧ ∀ slot, (built calls).valueAt slot = lastAt slot calls := by
  refine ⟨fun calls others => agree_of_lastAt_eq, ?_, ?_, ?_⟩
  · intro before after call other differ
    refine agree_of_lastAt_eq fun slot => ?_
    simp only [lastAt_append, lastAt_pair_comm differ]
  · intro before between after call other same
    refine agree_of_lastAt_eq fun slot => ?_
    rw [lastAt_append, lastAt_append, lastAt_append, lastAt_append slot before,
      lastAt_overwritten same]
  · exact fun calls => ⟨testsOnce_built calls, valueAt_built calls⟩

/-- Two demands on the second argument, of which the later counts, and one on the first. -/
private def secondFirst : List Call :=
  [.argument 1 (.exact "x"), .name "A", .argument 0 (.pattern "a+"), .argument 1 (.exact "y")]

/-- The same demands from the first argument to the second, with a name that is overwritten. -/
private def firstSecond : List Call :=
  [.name "B", .argument 0 (.pattern "a+"), .argument 1 (.exact "y"), .name "A"]

/-- The tests stand in another order, but the criteria agree. -/
theorem built_agree_in_either_order :
    (∀ slot, lastAt slot secondFirst = lastAt slot firstSecond) ∧
      (built secondFirst).argTests.map (·.position) = [1, 0] ∧
      (built firstSecond).argTests.map (·.position) = [0, 1] ∧
      Agree (built secondFirst) (built firstSecond) ∧
      Agree (built [.argument 0 (.exact "x"), .argument 0 (.oneOf ["x"])])
        (built [.argument 0 (.oneOf ["x"]), .argument 0 (.exact "x")]) ∧
      Agree (built [.argsCount 1, .name "A", .argsCount 2]) (built [.name "A", .argsCount 2]) := by
  have same (slot : Slot) : lastAt slot secondFirst = lastAt slot firstSecond := by
    cases slot with
    | argument position kind =>
      cases kind with
      | exact => by_cases second : 1 = position <;> simp [lastAt, secondFirst, firstSecond,
          Call.slot, Demand.kind, second]
      | _ => simp [lastAt, secondFirst, firstSecond, Call.slot, Demand.kind]
    | _ => rfl
  obtain ⟨agree, commute, overwrite, _⟩ := built_agree_of_lastAt_eq
  exact ⟨same, rfl, rfl, agree _ _ same, commute [] [] _ _ (by decide),
    overwrite [] [.name "A"] [] _ _ (by decide)⟩

end Criteria

end TokenQuery
