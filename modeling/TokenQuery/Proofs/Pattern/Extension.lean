import TokenQuery.Pattern.Escape

/-!
Reading a pattern with a closing parenthesis behind it. What reads the beginning of a text leaves
the parenthesis with the rest, unless the text ends in a comment, which the parenthesis then belongs
to. Where the text ends too early the parenthesis can be taken for what is missing, but then nothing
is left. Main statement: escapes are read so (`readEscape_extends`), with one exception (`Dangles`).
-/

set_option autoImplicit false

namespace TokenQuery.Pattern

/-- What reading the beginning of a text comes to, and what it comes to with a closing parenthesis
behind the text. No more than `bound` characters of the text are left. With `early` the parenthesis
may also be all that is left, where the text alone is too short. -/
inductive Extends {α : Type} (early : Bool) (bound : Nat) :
    Except PatternError (α × List Char) → Except PatternError (α × List Char) → Prop
  | kept {result rest} (shorter : rest.length ≤ bound) :
      Extends early bound (.ok (result, rest)) (.ok (result, rest ++ [')']))
  | swallowed {result} : Extends early bound (.ok (result, [])) (.ok (result, []))
  | failed {error other} : Extends early bound (.error error) (.error other)
  | taken {error result} : Extends early bound (.error error) (.ok (result, []))
  | left {error result} (allowed : early = true) :
      Extends early bound (.error error) (.ok (result, [')']))

namespace Extends

variable {α β : Type} {early : Bool} {bound other : Nat}
  {alone closed : Except PatternError (α × List Char)}

theorem mono (extends_ : Extends early bound alone closed) (le : bound ≤ other) :
    Extends early other alone closed := by
  cases extends_ with
  | kept shorter => exact .kept (Nat.le_trans shorter le)
  | swallowed => exact .swallowed
  | failed => exact .failed
  | taken => exact .taken
  | left allowed => exact .left allowed

theorem allow (extends_ : Extends false bound alone closed) : Extends early bound alone closed := by
  cases extends_ with
  | kept shorter => exact .kept shorter
  | swallowed => exact .swallowed
  | failed => exact .failed
  | taken => exact .taken
  | left allowed => cases allowed

theorem of_empty {error : PatternError} (extends_ : Extends early 0 alone closed) :
    Extends early bound (.error error) alone := by
  cases extends_ with
  | kept shorter =>
    obtain rfl := List.eq_nil_of_length_eq_zero (Nat.le_zero.mp shorter)
    exact .taken
  | swallowed => exact .taken
  | failed | taken | left _ => exact .failed

theorem same_of_empty (extends_ : Extends early 0 alone closed) :
    Extends early bound alone alone := by
  cases extends_ with
  | kept shorter =>
    obtain rfl := List.eq_nil_of_length_eq_zero (Nat.le_zero.mp shorter)
    exact .swallowed
  | swallowed => exact .swallowed
  | failed | taken | left _ => exact .failed

private theorem of_left {error : PatternError} (extends_ : Extends true 0 alone closed) :
    Extends true bound (.error error) closed := by
  cases extends_ with
  | kept shorter =>
    obtain rfl := List.eq_nil_of_length_eq_zero (Nat.le_zero.mp shorter)
    exact .left rfl
  | swallowed | taken => exact .taken
  | failed => exact .failed
  | left _ => exact .left rfl

theorem bind (first : Extends early bound alone closed)
    (next : α × List Char → Except PatternError (β × List Char))
    (later : ∀ result rest,
      Extends early rest.length (next (result, rest)) (next (result, rest ++ [')']))) :
    Extends early bound (alone >>= next) (closed >>= next) := by
  cases first with
  | kept shorter => exact (later _ _).mono shorter
  | swallowed => exact (later _ []).same_of_empty
  | failed => exact .failed
  | taken => exact (later _ []).of_empty
  | left allowed =>
    subst allowed
    exact (later _ []).of_left

theorem bind_unclosed (first : Extends true bound alone closed) (error : PatternError)
    {next nextClosed : α × List Char → Except PatternError (β × List Char)}
    (unclosed : ∀ result, next (result, []) = .error error ∧
      nextClosed (result, []) = .error error ∧ nextClosed (result, [')']) = .error error)
    (later : ∀ result rest, rest.length ≤ bound →
      Extends false rest.length (next (result, rest)) (nextClosed (result, rest ++ [')']))) :
    Extends false bound (alone >>= next) (closed >>= nextClosed) := by
  cases first with
  | kept shorter => exact (later _ _ shorter).mono shorter
  | @swallowed result =>
    change Extends _ _ (next (result, [])) (nextClosed (result, []))
    rw [(unclosed result).1, (unclosed result).2.1]
    exact .failed
  | failed => exact .failed
  | @taken _ result =>
    change Extends _ _ (.error _) (nextClosed (result, []))
    rw [(unclosed result).2.1]
    exact .failed
  | @left _ result _ =>
    change Extends _ _ (.error _) (nextClosed (result, [')']))
    rw [(unclosed result).2.2]
    exact .failed

theorem bind_same {x : Except PatternError α}
    {after behind : α → Except PatternError (β × List Char)}
    (later : ∀ result, Extends early bound (after result) (behind result)) :
    Extends early bound (x >>= after) (x >>= behind) := by
  cases x with
  | error error => exact .failed
  | ok result => exact later result

end Extends

section Filler

variable {flags : Flags} {text : List Char}

private theorem dropFiller_append (comment : Bool) (text : List Char) :
    dropFiller comment (text ++ [')']) = dropFiller comment text ++ [')'] ∨
      dropFiller comment text = [] ∧ dropFiller comment (text ++ [')']) = [] := by
  induction text generalizing comment with
  | nil =>
    cases comment with
    | false => exact .inl rfl
    | true => exact .inr ⟨rfl, rfl⟩
  | cons c rest ih =>
    simp only [List.cons_append, dropFiller]
    split
    · exact ih _
    · split
      · exact ih _
      · split
        · exact ih _
        · exact .inl rfl

private theorem length_dropFiller_le (comment : Bool) (text : List Char) :
    (dropFiller comment text).length ≤ text.length := by
  induction text generalizing comment with
  | nil => exact Nat.le_refl _
  | cons c rest ih =>
    rw [dropFiller]
    split
    · exact Nat.le_succ_of_le (ih _)
    · split
      · exact Nat.le_succ_of_le (ih _)
      · split
        · exact Nat.le_succ_of_le (ih _)
        · exact Nat.le_refl _

@[simp] theorem skip_nil (flags : Flags) : flags.skip [] = [] := by
  unfold Flags.skip
  split <;> rfl

@[simp] theorem skip_closing (flags : Flags) : flags.skip [')'] = [')'] := by
  unfold Flags.skip
  split <;> rfl

theorem length_skip_le (flags : Flags) (text : List Char) :
    (flags.skip text).length ≤ text.length := by
  unfold Flags.skip
  split
  · exact length_dropFiller_le _ _
  · exact Nat.le_refl _

theorem skip_append (flags : Flags) (text : List Char) :
    flags.skip (text ++ [')']) = flags.skip text ++ [')'] ∨
      flags.skip text = [] ∧ flags.skip (text ++ [')']) = [] := by
  unfold Flags.skip
  split
  · exact dropFiller_append false text
  · exact .inl rfl

theorem skip_cases (flags : Flags) (text : List Char) :
    (∃ c rest, flags.skip text = c :: rest ∧ flags.skip (text ++ [')']) = c :: (rest ++ [')']) ∧
      rest.length < text.length) ∨
    (flags.skip text = [] ∧ flags.skip (text ++ [')']) = [')']) ∨
    flags.skip text = [] ∧ flags.skip (text ++ [')']) = [] := by
  rcases skip_append flags text with kept | swallowed
  · have shorter := length_skip_le flags text
    cases skipped : flags.skip text with
    | nil => exact .inr (.inl ⟨rfl, by rw [kept, skipped]; rfl⟩)
    | cons c rest =>
      rw [skipped] at kept shorter
      exact .inl ⟨c, rest, rfl, kept, shorter⟩
  · exact .inr (.inr swallowed)

/-- What taking the wanted characters of a text comes to, and what it comes to with the parenthesis
behind the text. It ends at the same character, with fewer than `bound` behind it, or at the end of
the text, or at the parenthesis, if that is not wanted. -/
inductive Takes (wanted : Char → Bool) (bound : Nat) :
    List Char × List Char → List Char × List Char → Prop
  | stopped {taken c behind} (shorter : behind.length < bound) :
      Takes wanted bound (taken, c :: behind) (taken, c :: (behind ++ [')']))
  | finished {taken more} (same : wanted ')' = false → more = taken) :
      Takes wanted bound (taken, []) (more, [])
  | refused {taken} (unwanted : wanted ')' = false) :
      Takes wanted bound (taken, []) (taken, [')'])

namespace Takes

variable {wanted : Char → Bool} {bound other : Nat} {alone closed : List Char × List Char}

theorem mono (takes : Takes wanted bound alone closed) (le : bound ≤ other) :
    Takes wanted other alone closed := by
  cases takes with
  | stopped shorter => exact .stopped (Nat.lt_of_lt_of_le shorter le)
  | finished same => exact .finished same
  | refused unwanted => exact .refused unwanted

theorem cons (takes : Takes wanted bound alone closed) (c : Char) :
    Takes wanted bound (c :: alone.1, alone.2) (c :: closed.1, closed.2) := by
  cases takes with
  | stopped shorter => exact .stopped shorter
  | finished same => exact .finished fun unwanted => congrArg (c :: ·) (same unwanted)
  | refused unwanted => exact .refused unwanted

end Takes

theorem takeWhile_takes (flags : Flags) (wanted : Char → Bool) (comment : Bool)
    (text : List Char) :
    Takes wanted text.length (flags.takeWhile wanted comment text)
      (flags.takeWhile wanted comment (text ++ [')'])) := by
  induction text generalizing comment with
  | nil =>
    cases comment with
    | true => exact .finished fun _ => rfl
    | false =>
      have closing : flags.takeWhile wanted false [')'] =
          if wanted ')' then ([')'], []) else ([], [')']) := by
        simp [Flags.takeWhile, show Text.isBlank ')' = false from rfl]
      rw [List.nil_append, closing]
      cases asked : wanted ')' with
      | true => exact .finished fun unwanted => absurd (asked.symm.trans unwanted) (by decide)
      | false => exact .refused asked
  | cons c rest ih =>
    have passed (comment : Bool) := (ih comment).mono (Nat.le_succ _)
    simp only [List.cons_append, Flags.takeWhile, List.length_cons]
    split
    · exact passed _
    · split
      · exact passed _
      · split
        · exact passed _
        · split
          · exact (passed false).cons c
          · exact .stopped (Nat.lt_succ_self _)

theorem span_cases (wanted : Char → Bool) (text : List Char) :
    (∃ c behind, text.dropWhile wanted = c :: behind ∧
      (text ++ [')']).dropWhile wanted = c :: (behind ++ [')']) ∧
      (text ++ [')']).takeWhile wanted = text.takeWhile wanted ∧ behind.length < text.length) ∨
    text.dropWhile wanted = [] ∧
      (wanted ')' = true → (text ++ [')']).dropWhile wanted = []) := by
  induction text with
  | nil => exact .inr ⟨rfl, fun asked => by simp [asked]⟩
  | cons c rest ih =>
    cases asked : wanted c with
    | false => exact .inl ⟨c, rest, by simp [asked], by simp [asked], by simp [asked], by simp⟩
    | true =>
      simp only [List.cons_append, List.dropWhile_cons, List.takeWhile_cons, asked, if_true,
        List.length_cons]
      rcases ih with ⟨d, behind, plain, closed, taken, shorter⟩ | finished
      · exact .inl ⟨d, behind, plain, closed, by rw [taken], Nat.lt_succ_of_lt shorter⟩
      · exact .inr finished

theorem dropWhile_append (wanted : Char → Bool) (stops : wanted ')' = false) (text : List Char) :
    (text ++ [')']).dropWhile wanted = text.dropWhile wanted ++ [')'] := by
  induction text with
  | nil => simp [stops]
  | cons c rest ih =>
    simp only [List.cons_append, List.dropWhile_cons, ih]
    split <;> rfl

end Filler

section Escapes

variable {flags : Flags} {text : List Char}

private theorem takeDigits_extends (flags : Flags) (count : Nat) (text : List Char) :
    Extends false text.length (takeDigits flags count text)
      (takeDigits flags count (text ++ [')'])) := by
  induction count generalizing text with
  | zero => exact .kept (Nat.le_refl _)
  | succ count ih =>
    have digit (c : Char) (rest : List Char) : Extends false rest.length
        (takeDigits flags count rest >>= fun found => return (c :: found.1, found.2))
        (takeDigits flags count (rest ++ [')']) >>= fun found => return (c :: found.1, found.2)) :=
      (ih rest).bind _ fun _ _ => .kept (Nat.le_refl _)
    rw [takeDigits, takeDigits]
    rcases skip_cases flags text with ⟨c, rest, plain, closed, shorter⟩ | ⟨plain, closed⟩ |
      ⟨plain, closed⟩
    · rw [plain, closed]
      exact (digit c rest).mono (Nat.le_of_lt shorter)
    · rw [plain, closed]
      exact (digit ')' []).of_empty
    · rw [plain, closed]
      exact .failed

private theorem braced_extends {α : Type} (flags : Flags) (early : PatternError) (text : List Char)
    (name : List Char → Except PatternError α) :
    Extends false text.length
      (match flags.takeWhile (· != Char.ofNat 0x7D) false text with
      | (_, []) => .error early
      | (digits, _ :: behind) => do return (← name digits, behind))
      (match flags.takeWhile (· != Char.ofNat 0x7D) false (text ++ [')']) with
      | (_, []) => .error early
      | (digits, _ :: behind) => do return (← name digits, behind)) := by
  have takes := takeWhile_takes flags (· != Char.ofNat 0x7D) false text
  generalize flags.takeWhile (· != Char.ofNat 0x7D) false text = alone at takes ⊢
  generalize flags.takeWhile (· != Char.ofNat 0x7D) false (text ++ [')']) = closed at takes ⊢
  cases takes with
  | stopped shorter => exact .bind_same fun _ => .kept (Nat.le_of_lt shorter)
  | finished => exact .failed
  | refused unwanted => exact absurd unwanted (by decide)

private theorem readHex_extends (flags : Flags) (count : Nat) (text : List Char) :
    Extends false text.length (readHex flags (count + 1) text)
      (readHex flags (count + 1) (text ++ [')'])) := by
  have plainly (text : List Char) : Extends false text.length
      (takeDigits flags (count + 1) text >>= fun found => do
        return (← hexLiteral found.1 (count + 1 == 2), found.2))
      (takeDigits flags (count + 1) (text ++ [')']) >>= fun found => do
        return (← hexLiteral found.1 (count + 1 == 2), found.2)) :=
    (takeDigits_extends flags (count + 1) text).bind _ fun _ _ =>
      .bind_same fun _ => .kept (Nat.le_refl _)
  unfold readHex
  rcases skip_cases flags text with ⟨c, rest, plain, closed, shorter⟩ | ⟨plain, closed⟩ |
    ⟨plain, closed⟩
  · rw [plain, closed]
    dsimp only
    split
    · exact (braced_extends flags _ rest _).mono (Nat.le_of_lt shorter)
    · exact (plainly (c :: rest)).mono shorter
  · have digits := ((takeDigits_extends flags count []).bind
      (fun found => return (')' :: found.1, found.2)) fun _ _ => .kept (Nat.le_refl _)).bind
      (fun found => do return (← hexLiteral found.1 (count + 1 == 2), found.2))
      fun _ _ => .bind_same fun _ => .kept (Nat.le_refl _)
    rw [plain, closed]
    dsimp only
    rw [if_neg (by decide), takeDigits, skip_closing]
    exact digits.of_empty
  · rw [plain, closed]
    exact .failed

/-- What the name of a property stands for under the flags. -/
def propertyAtom (flags : Flags) (negated : Bool) (name : PropertyName) :
    Except PatternError Atom :=
  if flags.unicode then
    match name.set? with
    | none => .error .property
    | some set => .ok (.set ((foldedBy flags set).negatedIf negated))
  else .error .bytewise

private theorem readProperty_eq (flags : Flags) (negated : Bool) (text : List Char) :
    readProperty flags negated text =
      match flags.skip text with
      | [] => .error .escapeUnfinished
      | c :: rest =>
        if c = Char.ofNat 0x7B then
          match flags.takeWhile (· != Char.ofNat 0x7D) false rest with
          | (_, []) => .error .escapeUnfinished
          | (name, _ :: behind) => do
            return (← propertyAtom flags negated (propertyName name), behind)
        else if c = '\\' then .error .property
        else do return (← propertyAtom flags negated (.alone [c]), rest) := by
  have atom (name : PropertyName) (rest : List Char) :
      (if flags.unicode = true then
        match name.set? with
        | none => Except.error PatternError.property
        | some set => return (Atom.set ((foldedBy flags set).negatedIf negated), rest)
      else .error .bytewise) = do return (← propertyAtom flags negated name, rest) := by
    unfold propertyAtom
    cases flags.unicode with
    | false => rfl
    | true => cases name.set? <;> rfl
  unfold readProperty
  cases flags.skip text with
  | nil => rfl
  | cons c rest =>
    dsimp only
    split
    · rcases flags.takeWhile (· != Char.ofNat 0x7D) false rest with ⟨name, _ | ⟨stop, behind⟩⟩
      · rfl
      · exact atom _ _
    · split
      · rfl
      · exact atom _ _

private theorem readProperty_extends (flags : Flags) (negated : Bool) (text : List Char) :
    Extends false text.length (readProperty flags negated text)
      (readProperty flags negated (text ++ [')'])) := by
  rw [readProperty_eq, readProperty_eq]
  rcases skip_cases flags text with ⟨c, rest, plain, closed, shorter⟩ | ⟨plain, closed⟩ |
    ⟨plain, closed⟩
  · rw [plain, closed]
    dsimp only
    split
    · exact (braced_extends flags _ rest _).mono (Nat.le_of_lt shorter)
    · split
      · exact .failed
      · exact .bind_same fun _ => .kept (Nat.le_of_lt shorter)
  · rw [plain, closed]
    dsimp only
    rw [if_neg (by decide), if_neg (by decide)]
    cases propertyAtom flags negated (.alone [')']) with
    | error error => exact .failed
    | ok atom => exact .taken
  · rw [plain, closed]
    exact .failed

/-- The brace that could begin the name of a word boundary is left, and only filler and the
parenthesis behind it. The text alone is too short. -/
def Dangles {α : Type} (flags : Flags) (result : α)
    (alone closed : Except PatternError (α × List Char)) : Prop :=
  ∃ error inner, alone = .error error ∧ closed = .ok (result, Char.ofNat 0x7B :: inner) ∧
    flags.skip inner = [')']

/-- The kind of word boundary with this name, if a brace ends the name. -/
def closeBoundary : List Char × List Char → Except PatternError (WordTest × List Char)
  | (_, []) => .error .wordBoundary
  | (name, stop :: behind) =>
    if stop = Char.ofNat 0x7D then
      match String.ofList name with
      | "start" => .ok (.start, behind)
      | "end" => .ok (.stop, behind)
      | "start-half" => .ok (.startHalf, behind)
      | "end-half" => .ok (.stopHalf, behind)
      | _ => .error .wordBoundary
    else .error .wordBoundary

private theorem closeBoundary_extends {wanted : Char → Bool} {bound : Nat}
    {alone closed : List Char × List Char} (takes : Takes wanted bound alone closed) :
    Extends false bound (closeBoundary alone) (closeBoundary closed) := by
  cases takes with
  | stopped shorter =>
    unfold closeBoundary
    dsimp only
    split
    · split
      all_goals first | exact .kept (Nat.le_of_lt shorter) | exact .failed
    · exact .failed
  | finished => exact .failed
  | refused =>
    have unended : ¬ ')' = Char.ofNat 0x7D := by decide
    rw [closeBoundary, closeBoundary, if_neg unended]
    exact .failed

private theorem readBoundary_extends (flags : Flags) (text : List Char) :
    Extends false text.length (readBoundary flags text) (readBoundary flags (text ++ [')'])) ∨
      Dangles flags .boundary (readBoundary flags text) (readBoundary flags (text ++ [')'])) := by
  unfold readBoundary
  cases text with
  | nil =>
    refine .inl ?_
    rw [List.nil_append]
    dsimp only
    rw [if_neg (by decide)]
    exact .kept (Nat.le_refl _)
  | cons brace inner =>
    rw [List.cons_append]
    dsimp only
    split
    · rename_i opens
      subst opens
      rcases skip_cases flags inner with ⟨c, rest, plain, closed, shorter⟩ | ⟨plain, closed⟩ |
        ⟨plain, closed⟩
      · refine .inl ?_
        rw [plain, closed]
        dsimp only
        split
        · have length : (c :: rest).length ≤ (Char.ofNat 0x7B :: inner).length :=
            Nat.le_succ_of_le shorter
          exact closeBoundary_extends ((takeWhile_takes flags isBoundaryChar false _).mono length)
        · exact .kept (Nat.le_refl _)
      · refine .inr ?_
        rw [plain, closed]
        dsimp only
        rw [if_neg (by decide)]
        exact ⟨_, _, rfl, rfl, closed⟩
      · rw [plain, closed]
        exact .inl .failed
    · exact .inl (.kept (Nat.le_refl _))

/-- An escape is read so, but the name of a word boundary can be left to begin. -/
theorem readEscape_extends (flags : Flags) (text : List Char) :
    Extends false text.length (readEscape flags text) (readEscape flags (text ++ [')'])) ∨
      Dangles flags (.look (.word flags.unicode .boundary)) (readEscape flags text)
        (readEscape flags (text ++ [')'])) := by
  unfold readEscape
  cases text with
  | nil => exact .inl .taken
  | cons c rest =>
    have plain {atom : Atom} : Extends false (c :: rest).length (.ok (atom, rest))
        (.ok (atom, rest ++ [')'])) := .kept (Nat.le_succ _)
    have letter (set : Except PatternError CharSet) : Extends false (c :: rest).length
        (do return (Atom.set (← set), rest)) (do return (Atom.set (← set), rest ++ [')'])) :=
      .bind_same fun _ => plain
    have hex (count : Nat) := (readHex_extends flags count rest).mono (Nat.le_succ _)
    have property (negated : Bool) :=
      (readProperty_extends flags negated rest).mono (Nat.le_succ _)
    rw [List.cons_append]
    dsimp only
    split
    · exact .inl .failed
    · split
      · exact .inl plain
      · split
        case h_1 => exact .inl (hex 1)
        case h_2 => exact .inl (hex 3)
        case h_3 => exact .inl (hex 7)
        case h_4 => exact .inl (property false)
        case h_5 => exact .inl (property true)
        case h_6 | h_7 | h_8 | h_9 | h_10 | h_11 => exact .inl (letter _)
        case h_20 =>
          rcases readBoundary_extends flags rest with extends_ | ⟨error, inner, alone, closed, only⟩
          · have word := extends_.bind
              (fun found => .ok (Atom.look (.word flags.unicode found.1), found.2))
              fun _ _ => .kept (Nat.le_refl _)
            exact .inl (word.mono (Nat.le_succ _))
          · rw [alone, closed]
            exact .inr ⟨error, inner, rfl, rfl, only⟩
        case h_24 => exact .inl .failed
        all_goals exact .inl plain

end Escapes

end TokenQuery.Pattern
