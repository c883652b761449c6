import TokenQuery.Proofs.Pattern.StepExtension

/-!
Reading a pattern inside other groups. A step does not see the groups around it, unless it ends one
of them (`readStep_within`). Main statement: a pattern that closes no group but its own is read the
same inside other groups, and a parenthesis behind it then ends the innermost of them, unless the
pattern ends in a comment (`readItems_encloses`).
-/

set_option autoImplicit false

namespace TokenQuery.Pattern

section Frames

variable {state after : ReadState} {text behind : List Char} {outer : List Frame}

/-- The state inside more groups, which were opened before all others. -/
def ReadState.within (state : ReadState) (outer : List Frame) : ReadState :=
  { state with frames := state.frames ++ outer }

/-- What is read stands inside more groups. -/
def readWithin (outer : List Frame) (read : Except PatternError (ReadState × List Char)) :
    Except PatternError (ReadState × List Char) :=
  read.map fun (after, behind) => (after.within outer, behind)

@[simp] theorem within_flags : (state.within outer).flags = state.flags := rfl

@[simp] theorem within_branches : (state.within outer).branches = state.branches := rfl

@[simp] theorem within_names : (state.within outer).names = state.names := rfl

@[simp] theorem within_nil : state.within [] = state := by
  rw [ReadState.within, List.append_nil]

theorem closeGroup_within (framed : state.frames ≠ []) :
    (state.within outer).closeGroup = state.closeGroup.map (·.within outer) := by
  unfold ReadState.closeGroup ReadState.within
  cases frames : state.frames with
  | nil => exact absurd frames framed
  | cons frame rest => rfl

private theorem repeatLast_within (least : Nat) (further : Option Nat) :
    (state.within outer).repeatLast least further =
      (state.repeatLast least further).map (·.within outer) := by
  unfold ReadState.repeatLast
  rw [within_branches]
  split
  · rfl
  · split <;> rfl

private theorem openNamed_within (state : ReadState) (outer : List Frame) (text : List Char) :
    openNamed (state.within outer) text = readWithin outer (openNamed state text) := by
  unfold openNamed
  rw [within_names]
  dsimp only
  split
  · rfl
  · split
    · rfl
    · split <;> rfl

private theorem openFlags_within (state : ReadState) (outer : List Frame) (text : List Char) :
    openFlags (state.within outer) text = readWithin outer (openFlags state text) := by
  have applied (items : List (Option Flag)) (grouped : Bool) :
      applyFlags (state.within outer) items grouped =
        (applyFlags state items grouped).map (·.within outer) := by
    unfold applyFlags
    dsimp only
    split
    · rfl
    · split <;> rfl
  unfold openFlags
  cases flagList [] text with
  | error error => rfl
  | ok found =>
    obtain ⟨⟨items, grouped⟩, behind⟩ := found
    change (applyFlags (state.within outer) items grouped >>= fun after => pure (after, behind)) =
      readWithin outer (applyFlags state items grouped >>= fun after => pure (after, behind))
    rw [applied]
    cases applyFlags state items grouped <;> rfl

private theorem openParenthesis_within (state : ReadState) (outer : List Frame) (text : List Char) :
    openParenthesis (state.within outer) text = readWithin outer (openParenthesis state text) := by
  by_cases mark : (state.flags.skip text).head? = some '?'
  · obtain ⟨rest, skipped⟩ := List.head?_eq_some_iff.mp mark
    have skippedWithin : (state.within outer).flags.skip text = '?' :: rest := skipped
    rw [openParenthesis_of_mark skipped, openParenthesis_of_mark skippedWithin]
    unfold openMarked
    rw [openNamed_within, openNamed_within, openFlags_within]
    split
    · rfl
    · split
      · rfl
      · split <;> rfl
  · have markWithin : ((state.within outer).flags.skip text).head? ≠ some '?' := mark
    rw [openParenthesis_of_plain mark, openParenthesis_of_plain markWithin]
    rfl

private theorem closeCount_within (least : Nat) (most : Option Nat) (text : List Char) :
    closeCount (state.within outer) least most text =
      readWithin outer (closeCount state least most text) := by
  cases text with
  | nil => rfl
  | cons c rest =>
    rw [closeCount, closeCount, repeatLast_within]
    split
    · split
      · rfl
      · cases state.repeatLast least (most.map (· - least)) <;> rfl
    · rfl

private theorem readRepetition_within (state : ReadState) (outer : List Frame) (text : List Char) :
    readRepetition (state.within outer) text = readWithin outer (readRepetition state text) := by
  have comma (least : Nat) (text : List Char) : closeComma (state.within outer) least text =
      readWithin outer (closeComma state least text) := by
    unfold closeComma
    rw [closeCount_within, within_flags]
    split
    · rfl
    · cases readCount state.flags text with
      | error error => rfl
      | ok found => exact closeCount_within _ _ _
  have onward (least : Nat) (text : List Char) : closeLeast (state.within outer) least text =
      readWithin outer (closeLeast state least text) := by
    unfold closeLeast
    split
    · exact comma _ _
    · exact closeCount_within _ _ _
  rw [readRepetition_eq, readRepetition_eq, within_flags]
  cases readCount state.flags (state.flags.skip text) with
  | error error => rfl
  | ok found => exact onward _ _

/-- A step sees the groups around it only when it ends one of them. -/
theorem readStep_within (state : ReadState) (outer : List Frame) {c : Char} (rest : List Char)
    (opened : c = ')' → state.frames ≠ []) :
    readStep (state.within outer) c rest = readWithin outer (readStep state c rest) := by
  unfold readStep
  split
  case h_1 => exact openParenthesis_within state outer rest
  case h_2 =>
    rw [closeGroup_within (opened rfl)]
    cases state.closeGroup <;> rfl
  case h_3 => rfl
  case h_4 =>
    rw [within_flags]
    cases Bracket.read state.flags rest <;> rfl
  case h_5 | h_6 | h_7 =>
    rw [repeatLast_within]
    cases state.repeatLast _ _ <;> rfl
  case h_8 =>
    rw [within_flags]
    cases dotItem state.flags <;> rfl
  case h_9 | h_10 => rfl
  case h_11 =>
    rw [within_flags]
    cases readEscape state.flags rest with
    | error error => rfl
    | ok found =>
      change ((found.1.item state.flags) >>= fun item =>
          pure ((state.within outer).push item, found.2)) =
        readWithin outer (found.1.item state.flags >>= fun item => pure (state.push item, found.2))
      cases found.1.item state.flags <;> rfl
  case h_12 =>
    rw [within_branches, within_flags, readRepetition_within]
    split
    · split <;> rfl
    · cases charItem state.flags _ false <;> rfl

end Frames

section Runs

variable {state : ReadState} {text : List Char} {steps more : Nat}

private theorem readItems_nil (enough : 0 < steps) : readItems steps state [] = .ok state := by
  obtain ⟨steps, rfl⟩ : ∃ fewer, steps = fewer + 1 := ⟨steps - 1, by omega⟩
  rw [readItems, skip_nil]

private theorem readItems_cons {c : Char} {rest : List Char}
    (skipped : state.flags.skip text = c :: rest) :
    readItems (steps + 1) state text =
      readStep state c rest >>= fun (after, behind) => readItems steps after behind := by
  rw [readItems, skipped]

/-- What reading all of a text comes to, next to what it comes to in at least `least` steps inside
other groups and with a closing parenthesis behind the text. -/
inductive Encloses (least : Nat) (enclosed : Nat → List Frame → Except PatternError ReadState) :
    Except PatternError ReadState → Prop
  | closed {final : ReadState}
      (closes : ∀ more outer, least ≤ more →
        enclosed more outer = (final.within outer).closeGroup) :
      Encloses least enclosed (.ok final)
  | swallowed {final : ReadState}
      (ends : ∀ more outer, least ≤ more → enclosed more outer = .ok (final.within outer)) :
      Encloses least enclosed (.ok final)
  | failed {error : PatternError} (other : PatternError)
      (fails : ∀ more outer, least ≤ more → enclosed more outer = .error other) :
      Encloses least enclosed (.error error)
  | unclosed {error : PatternError} (final : ReadState)
      (ends : ∀ more outer, least ≤ more → enclosed more outer = .ok (final.within outer)) :
      Encloses least enclosed (.error error)

theorem Encloses.step {fewer least : Nat}
    {enclosed later : Nat → List Frame → Except PatternError ReadState}
    {plain : Except PatternError ReadState} (encloses : Encloses fewer later plain)
    (within : fewer < least) (same : ∀ more outer, enclosed (more + 1) outer = later more outer) :
    Encloses least enclosed plain := by
  have behind (more : Nat) (enough : least ≤ more) :
      ∃ further, fewer ≤ further ∧ more = further + 1 := ⟨more - 1, by omega, by omega⟩
  cases encloses with
  | closed closes =>
    refine .closed fun more outer enough => ?_
    obtain ⟨further, before, rfl⟩ := behind more enough
    rw [same, closes further outer before]
  | swallowed ends =>
    refine .swallowed fun more outer enough => ?_
    obtain ⟨further, before, rfl⟩ := behind more enough
    rw [same, ends further outer before]
  | failed other fails =>
    refine .failed other fun more outer enough => ?_
    obtain ⟨further, before, rfl⟩ := behind more enough
    rw [same, fails further outer before]
  | unclosed final ends =>
    refine .unclosed final fun more outer enough => ?_
    obtain ⟨further, before, rfl⟩ := behind more enough
    rw [same, ends further outer before]

private theorem encloses_of_skip_eq_nil {least : Nat} (skipped : state.flags.skip text = [])
    (two : 2 ≤ least) :
    Encloses least (fun more outer => readItems more (state.within outer) (text ++ [')']))
      (readItems (steps + 1) state text) := by
  have ends : readItems (steps + 1) state text = .ok state := by rw [readItems, skipped]
  rw [ends]
  rcases skip_append state.flags text with kept | ⟨_, swallowed⟩
  · rw [skipped, List.nil_append] at kept
    refine .closed fun more outer enough => ?_
    obtain ⟨further, rfl⟩ : ∃ further, more = further + 2 := ⟨more - 2, by omega⟩
    rw [readItems_cons (by exact kept)]
    change ((state.within outer).closeGroup >>= fun after => pure (after, [])) >>=
      (fun (after, behind) => readItems (further + 1) after behind) = _
    cases (state.within outer).closeGroup with
    | error error => rfl
    | ok after => exact readItems_nil (Nat.succ_pos _)
  · refine .swallowed fun more outer enough => ?_
    obtain ⟨further, rfl⟩ : ∃ further, more = further + 1 := ⟨more - 1, by omega⟩
    rw [readItems, within_flags, swallowed]

private theorem exists_readStep_brace_eq_error (state : ReadState) {inner : List Char}
    (only : state.flags.skip inner = [')']) :
    ∃ error, readStep state (Char.ofNat 0x7B) inner = .error error := by
  have step : readStep state (Char.ofNat 0x7B) inner =
      if state.branches.items.head?.any (·.repeatable) then readRepetition state inner
      else .error .nothingToRepeat := rfl
  have count : readCount state.flags [')'] = .error .countEmpty := by
    rcases state.flags with ⟨_, _, _, _, _, _ | _⟩ <;> rfl
  rw [step]
  split
  · rw [readRepetition_eq, only, count]
    exact ⟨_, rfl⟩
  · exact ⟨_, rfl⟩

private theorem encloses_of_brace (state : ReadState) {inner : List Char} (error : PatternError)
    (only : state.flags.skip inner = [')']) :
    Encloses 1 (fun more outer => readItems more (state.within outer) (Char.ofNat 0x7B :: inner))
      (.error error) := by
  have brace : state.flags.skip (Char.ofNat 0x7B :: inner) = Char.ofNat 0x7B :: inner := by
    unfold Flags.skip
    split <;> rfl
  have other : Char.ofNat 0x7B = ')' → state.frames ≠ [] := by
    intro same
    exact absurd same (by decide)
  obtain ⟨unread, fails⟩ := exists_readStep_brace_eq_error state only
  refine .failed unread fun more outer enough => ?_
  obtain ⟨further, rfl⟩ : ∃ further, more = further + 1 := ⟨more - 1, by omega⟩
  rw [readItems_cons (by exact brace), readStep_within state outer inner other, fails]
  rfl

/-- A text that closes no group but its own is read the same inside other groups, with a step for
every character. The parenthesis behind it then ends the innermost group, unless the text ends in a
comment, or is too short already. The induction is on the steps. -/
theorem readItems_encloses (enough : text.length < steps)
    (own : readItems steps state text ≠ .error .groupUnopened) :
    Encloses (text.length + 2)
      (fun more outer => readItems more (state.within outer) (text ++ [')']))
      (readItems steps state text) := by
  induction steps generalizing text state with
  | zero => exact absurd enough (Nat.not_lt_zero _)
  | succ steps ih =>
    rcases skip_cases state.flags text with ⟨c, rest, plain, closed, shorter⟩ | skipped
    · have framed : c = ')' → state.frames ≠ [] := by
        rintro rfl unframed
        refine own ?_
        rw [readItems_cons plain]
        simp only [readStep, ReadState.closeGroup, unframed]
        rfl
      have within (more : Nat) (outer : List Frame) :
          readItems (more + 1) (state.within outer) (text ++ [')']) =
            readWithin outer (readStep state c (rest ++ [')'])) >>=
              fun (after, behind) => readItems more after behind := by
        rw [readItems_cons (by exact closed), readStep_within state outer _ framed]
      rw [readItems_cons plain] at own ⊢
      rcases readStep_extends state c rest with extends_ | ⟨item, error, inner, alone, left, only⟩
      · generalize readStep state c rest = alone at extends_ own ⊢
        generalize readStep state c (rest ++ [')']) = beyond at extends_ within
        cases extends_ with
        | kept length => exact (ih (by omega) own).step (by omega) within
        | @swallowed after =>
          change Encloses _ _ (readItems steps after [])
          have ends : readItems steps after [] = .ok after := readItems_nil (by omega)
          have swallowed : Encloses 1 (fun more outer => readItems more (after.within outer) [])
              (.ok after) := .swallowed fun _ _ enough => readItems_nil enough
          rw [ends]
          exact swallowed.step (by omega) within
        | @failed error other =>
          have failed : Encloses 0 (fun _ _ => .error other) (.error error) :=
            .failed other fun _ _ _ => rfl
          exact failed.step (by omega) within
        | @taken error after =>
          have unclosed : Encloses 1 (fun more outer => readItems more (after.within outer) [])
              (.error error) := .unclosed after fun _ _ enough => readItems_nil enough
          exact unclosed.step (by omega) within
        | left allowed => cases allowed
      · rw [left] at within
        rw [alone]
        exact (encloses_of_brace (state.push item) error only).step (by omega) within
    · exact encloses_of_skip_eq_nil (skipped.elim (·.1) (·.1)) (by omega)

end Runs

end TokenQuery.Pattern
