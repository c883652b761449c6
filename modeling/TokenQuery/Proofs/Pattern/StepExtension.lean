import TokenQuery.Pattern.Grammar
import TokenQuery.Proofs.Pattern.ClassExtension

/-!
Reading the structure of a pattern with a closing parenthesis behind the text: lists of flags, names
of groups and counted repetitions. Main statement: `readStep_extends`.
-/

set_option autoImplicit false

namespace TokenQuery.Pattern

variable {state : ReadState} {text : List Char}

/-- The list of flags at the beginning of a text, and whether a colon ended it, apart from the text
that is left. -/
def flagList (items : List (Option Flag)) (text : List Char) :
    Except PatternError ((List (Option Flag) × Bool) × List Char) :=
  (readFlags items text).map fun (items, grouped, behind) => ((items, grouped), behind)

private theorem flagList_extends (items : List (Option Flag)) (text : List Char) :
    Extends false text.length (flagList items text) (flagList items (text ++ [')'])) := by
  unfold flagList
  induction text generalizing items with
  | nil =>
    rw [List.nil_append, readFlags, readFlags, if_pos (.inr rfl)]
    split
    · exact .failed
    · exact .taken
  | cons c rest ih =>
    have onward (items : List (Option Flag)) := (ih items).mono (Nat.le_succ _)
    rw [List.cons_append, readFlags, readFlags]
    split
    · split
      · exact .failed
      · exact .kept (Nat.le_succ _)
    · split
      · split
        · exact .failed
        · exact onward _
      · split
        · exact .failed
        · split
          · exact .failed
          · exact onward _

private theorem openNamed_extends (state : ReadState) (text : List Char) :
    Extends false text.length (openNamed state text) (openNamed state (text ++ [')'])) := by
  unfold openNamed
  rcases span_cases (· != '>') text with ⟨c, behind, plain, closed, taken, shorter⟩ |
    ⟨plain, closed⟩
  · rw [plain, closed, taken]
    dsimp only
    split
    · exact .failed
    · split
      · exact .failed
      · exact .kept (Nat.le_of_lt shorter)
  · rw [plain, closed (by decide)]
    exact .failed

/-- What a list of flags does to the state, when it is read behind a question mark. -/
def applyFlags (state : ReadState) (items : List (Option Flag)) (grouped : Bool) :
    Except PatternError ReadState :=
  let flags := state.flags.apply items
  if grouped then .ok (state.openGroup flags)
  else if items.isEmpty then .error .nothingToRepeat
  else .ok { state.push { expr := .empty, repeatable := false } with flags }

/-- Flags behind a question mark. -/
def openFlags (state : ReadState) (text : List Char) :
    Except PatternError (ReadState × List Char) :=
  flagList [] text >>= fun ((items, grouped), behind) => do
    return (← applyFlags state items grouped, behind)

private theorem openFlags_eq (state : ReadState) (text : List Char) :
    openFlags state text = do
      let (items, grouped, behind) ← readFlags [] text
      let flags := state.flags.apply items
      if grouped then return (state.openGroup flags, behind)
      else if items.isEmpty then .error .nothingToRepeat
      else
        let directive : Item := { expr := .empty, repeatable := false }
        return ({ state.push directive with flags }, behind) := by
  unfold openFlags flagList
  cases readFlags [] text with
  | error error => rfl
  | ok found =>
    obtain ⟨items, grouped, behind⟩ := found
    change (applyFlags state items grouped >>= fun after => pure (after, behind)) =
      if grouped then .ok (state.openGroup (state.flags.apply items), behind)
      else if items.isEmpty then .error .nothingToRepeat
      else .ok ({ state.push { expr := .empty, repeatable := false } with
        flags := state.flags.apply items }, behind)
    unfold applyFlags
    dsimp only
    split
    · rfl
    · split <;> rfl

private theorem openFlags_extends (state : ReadState) (text : List Char) :
    Extends false text.length (openFlags state text) (openFlags state (text ++ [')'])) :=
  (flagList_extends [] text).bind _ fun _ _ => .bind_same fun _ => .kept (Nat.le_refl _)

/-- What a question mark behind an opening parenthesis begins. -/
def openMarked (state : ReadState) (text : List Char) :
    Except PatternError (ReadState × List Char) :=
  if [['='], ['!'], ['<', '='], ['<', '!']].any (·.isPrefixOf text) then .error .lookaround
  else if ['P', '<'].isPrefixOf text then openNamed state (text.drop 2)
  else if ['<'].isPrefixOf text then openNamed state (text.drop 1)
  else openFlags state text

theorem openParenthesis_of_mark {rest : List Char} (skipped : state.flags.skip text = '?' :: rest) :
    openParenthesis state text = openMarked state rest := by
  unfold openParenthesis openMarked
  simp only [← openFlags_eq]
  rw [skipped]
  split
  case h_7 noEquals noMark _ _ noName noAngle begins =>
    obtain ⟨-, rfl⟩ := List.cons.inj begins
    have noNames : ¬ ['P', '<'] <+: rest := by
      rintro ⟨name, rfl⟩
      exact noName _ rfl
    simp_all [List.cons_prefix_iff]
  all_goals simp_all [List.cons_prefix_iff]

theorem openParenthesis_of_plain (plain : (state.flags.skip text).head? ≠ some '?') :
    openParenthesis state text =
      .ok (state.openGroup state.flags, state.flags.skip text) := by
  unfold openParenthesis
  split
  case h_8 => rfl
  all_goals simp_all

private theorem isPrefixOf_append {sign : List Char} (absent : ')' ∉ sign) (text : List Char) :
    sign.isPrefixOf (text ++ [')']) = sign.isPrefixOf text := by
  induction sign generalizing text with
  | nil => rfl
  | cons c sign ih =>
    rw [List.mem_cons, not_or] at absent
    cases text with
    | nil => simp [List.isPrefixOf, Ne.symm absent.1]
    | cons d rest => simp only [List.cons_append, List.isPrefixOf, ih absent.2]

private theorem openMarked_extends (state : ReadState) (text : List Char) :
    Extends false text.length (openMarked state text) (openMarked state (text ++ [')'])) := by
  have same (sign : List Char) (absent : ')' ∉ sign) := isPrefixOf_append absent text
  have signs : [['='], ['!'], ['<', '='], ['<', '!']].any (·.isPrefixOf (text ++ [')'])) =
      [['='], ['!'], ['<', '='], ['<', '!']].any (·.isPrefixOf text) := by
    simp only [List.any_cons, List.any_nil, same ['='] (by decide), same ['!'] (by decide),
      same ['<', '='] (by decide), same ['<', '!'] (by decide)]
  unfold openMarked
  rw [signs, same ['P', '<'] (by decide), same ['<'] (by decide)]
  split
  · exact .failed
  · split
    · rename_i begins
      obtain ⟨name, rfl⟩ := List.isPrefixOf_iff_prefix.mp begins
      exact (openNamed_extends state name).mono (Nat.le_add_right _ 2)
    · split
      · rename_i begins
        obtain ⟨name, rfl⟩ := List.isPrefixOf_iff_prefix.mp begins
        exact (openNamed_extends state name).mono (Nat.le_succ _)
      · exact openFlags_extends state text

private theorem openParenthesis_extends (state : ReadState) (text : List Char) :
    Extends false text.length (openParenthesis state text)
      (openParenthesis state (text ++ [')'])) := by
  rcases skip_cases state.flags text with ⟨c, rest, plain, closed, shorter⟩ | ⟨plain, closed⟩ |
    ⟨plain, closed⟩
  · by_cases mark : c = '?'
    · subst mark
      rw [openParenthesis_of_mark plain, openParenthesis_of_mark closed]
      exact (openMarked_extends state rest).mono (Nat.le_of_lt shorter)
    · rw [openParenthesis_of_plain (by simpa [plain] using mark),
        openParenthesis_of_plain (by simpa [closed] using mark), plain, closed]
      exact .kept shorter
  · rw [openParenthesis_of_plain (by simp [plain]), openParenthesis_of_plain (by simp [closed]),
      plain, closed]
    exact .kept (Nat.zero_le _)
  · rw [openParenthesis_of_plain (by simp [plain]), openParenthesis_of_plain (by simp [closed]),
      plain, closed]
    exact .swallowed

private theorem dropLazy_append (text : List Char) :
    dropLazy (text ++ [')']) = dropLazy text ++ [')'] := by
  cases text with
  | nil => rfl
  | cons c rest =>
    by_cases lazy : c = '?'
    · subst lazy
      rfl
    · have stays (text : List Char) : dropLazy (c :: text) = c :: text := by
        unfold dropLazy
        split
        · rename_i begins
          exact absurd (List.cons.inj begins).1 lazy
        · rfl
      rw [List.cons_append, stays, stays]
      rfl

private theorem length_dropLazy_le (text : List Char) : (dropLazy text).length ≤ text.length := by
  unfold dropLazy
  split
  · exact Nat.le_succ _
  · exact Nat.le_refl _

/-- The number that digits in front of a text make, when there are any. -/
def countOf (flags : Flags) (digits behind : List Char) : Except PatternError (Nat × List Char) :=
  if digits.isEmpty then .error .countEmpty
  else
    let count := digits.foldl (fun n c => 10 * n + (c.toNat - '0'.toNat)) 0
    if count ≤ countLimit then .ok (count, flags.skip (behind.dropWhile Text.isBlank))
    else .error .countTooLarge

private theorem readCount_eq (flags : Flags) (text : List Char) :
    readCount flags text =
      countOf flags (flags.takeWhile Char.isDigit false (text.dropWhile Text.isBlank)).1
        (flags.takeWhile Char.isDigit false (text.dropWhile Text.isBlank)).2 :=
  rfl

private theorem countOf_extends (flags : Flags) (digits behind : List Char) :
    Extends false behind.length (countOf flags digits behind)
      (countOf flags digits (behind ++ [')'])) := by
  have shorter : (flags.skip (behind.dropWhile Text.isBlank)).length ≤ behind.length :=
    Nat.le_trans (length_skip_le _ _) (List.dropWhile_suffix _).length_le
  unfold countOf
  rw [dropWhile_append Text.isBlank rfl]
  split
  · exact .failed
  · dsimp only
    split
    · rcases skip_append flags (behind.dropWhile Text.isBlank) with kept | ⟨plain, closed⟩
      · rw [kept]
        exact .kept shorter
      · rw [plain, closed]
        exact .swallowed
    · exact .failed

private theorem readCount_extends (flags : Flags) (text : List Char) :
    Extends false text.length (readCount flags text) (readCount flags (text ++ [')'])) := by
  have blanks : (text ++ [')']).dropWhile Text.isBlank = text.dropWhile Text.isBlank ++ [')'] :=
    dropWhile_append Text.isBlank rfl text
  have shorter : (text.dropWhile Text.isBlank).length ≤ text.length :=
    (List.dropWhile_suffix _).length_le
  rw [readCount_eq, readCount_eq, blanks]
  have takes := takeWhile_takes flags Char.isDigit false (text.dropWhile Text.isBlank)
  generalize flags.takeWhile Char.isDigit false (text.dropWhile Text.isBlank) = alone
    at takes ⊢
  generalize flags.takeWhile Char.isDigit false (text.dropWhile Text.isBlank ++ [')']) = closed
    at takes ⊢
  cases takes with
  | @stopped digits c behind fewer =>
    exact (countOf_extends flags digits (c :: behind)).mono (Nat.le_trans fewer shorter)
  | @finished digits _ same =>
    rw [same rfl]
    exact (countOf_extends flags digits []).same_of_empty
  | @refused digits => exact (countOf_extends flags digits []).mono (Nat.zero_le _)

private theorem closeCount_extends (state : ReadState) (least : Nat) (most : Option Nat)
    (text : List Char) :
    Extends false text.length (closeCount state least most text)
      (closeCount state least most (text ++ [')'])) := by
  cases text with
  | nil =>
    rw [List.nil_append, closeCount, closeCount, if_neg (by decide)]
    exact .failed
  | cons c rest =>
    rw [List.cons_append, closeCount, closeCount]
    split
    · split
      · exact .failed
      · refine .bind_same fun repeated => ?_
        rcases skip_append state.flags rest with kept | ⟨plain, closed⟩
        · rw [kept, dropLazy_append]
          refine .kept (Nat.le_trans (length_dropLazy_le _) ?_)
          exact Nat.le_succ_of_le (length_skip_le _ _)
        · rw [plain, closed]
          exact .swallowed
    · exact .failed

/-- What follows the comma of a counted repetition. -/
def closeComma (state : ReadState) (least : Nat) (text : List Char) :
    Except PatternError (ReadState × List Char) :=
  if text.head? = some (Char.ofNat 0x7D) then closeCount state least none text
  else readCount state.flags text >>= fun (most, behind) =>
    closeCount state least (some most) behind

/-- What follows the first number of a counted repetition. -/
def closeLeast (state : ReadState) (least : Nat) (text : List Char) :
    Except PatternError (ReadState × List Char) :=
  match text with
  | ',' :: rest => closeComma state least (state.flags.skip rest)
  | rest => closeCount state least (some least) rest

theorem readRepetition_eq (state : ReadState) (text : List Char) :
    readRepetition state text =
      readCount state.flags (state.flags.skip text) >>= fun (least, behind) =>
        closeLeast state least behind :=
  rfl

private theorem closeComma_extends (state : ReadState) (least : Nat) (text : List Char) :
    Extends false text.length (closeComma state least text)
      (closeComma state least (text ++ [')'])) := by
  have brace : (text ++ [')']).head? = some (Char.ofNat 0x7D) ↔
      text.head? = some (Char.ofNat 0x7D) := by
    cases text with
    | nil => decide
    | cons c rest => rfl
  unfold closeComma
  simp only [brace]
  split
  · exact closeCount_extends state least none text
  · exact (readCount_extends state.flags text).bind _ fun most behind =>
      closeCount_extends state least (some most) behind

private theorem closeLeast_of_ne {c : Char} {rest : List Char} (least : Nat) (other : c ≠ ',') :
    closeLeast state least (c :: rest) = closeCount state least (some least) (c :: rest) := by
  unfold closeLeast
  split
  · rename_i begins
    exact absurd (List.cons.inj begins).1 other
  · rfl

private theorem closeLeast_extends (state : ReadState) (least : Nat) (text : List Char) :
    Extends false text.length (closeLeast state least text)
      (closeLeast state least (text ++ [')'])) := by
  cases text with
  | nil => exact closeCount_extends state least (some least) []
  | cons c rest =>
    by_cases comma : c = ','
    · subst comma
      rw [List.cons_append, closeLeast, closeLeast]
      rcases skip_append state.flags rest with kept | ⟨plain, closed⟩
      · rw [kept]
        exact (closeComma_extends state least _).mono (Nat.le_succ_of_le (length_skip_le _ _))
      · rw [plain, closed]
        exact (closeComma_extends state least []).same_of_empty
    · rw [List.cons_append, closeLeast_of_ne least comma, closeLeast_of_ne least comma]
      exact closeCount_extends state least (some least) (c :: rest)

private theorem readRepetition_extends (state : ReadState) (text : List Char) :
    Extends false text.length (readRepetition state text)
      (readRepetition state (text ++ [')'])) := by
  have numbers (text : List Char) := (readCount_extends state.flags text).bind
    (fun (least, behind) => closeLeast state least behind)
    fun least behind => closeLeast_extends state least behind
  rw [readRepetition_eq, readRepetition_eq]
  rcases skip_append state.flags text with kept | ⟨plain, closed⟩
  · rw [kept]
    exact (numbers _).mono (length_skip_le _ _)
  · rw [plain, closed]
    exact (numbers []).same_of_empty

/-- Reading one item, or one sign of the structure, with the parenthesis behind the text. The brace
that could begin the name of a word boundary can be left, and then nothing can be read. -/
theorem readStep_extends (state : ReadState) (c : Char) (rest : List Char) :
    Extends false rest.length (readStep state c rest) (readStep state c (rest ++ [')'])) ∨
      ∃ item, Dangles state.flags (state.push item) (readStep state c rest)
        (readStep state c (rest ++ [')'])) := by
  have lazy (after : ReadState) : Extends false rest.length (.ok (after, dropLazy rest))
      (.ok (after, dropLazy (rest ++ [')']))) := by
    rw [dropLazy_append]
    exact .kept (length_dropLazy_le rest)
  have plain {after : ReadState} : Extends false rest.length (.ok (after, rest))
      (.ok (after, rest ++ [')'])) := .kept (Nat.le_refl _)
  unfold readStep
  split
  case h_1 => exact .inl (openParenthesis_extends state rest)
  case h_2 => exact .inl (.bind_same fun _ => plain)
  case h_3 => exact .inl plain
  case h_4 =>
    exact .inl ((Bracket.read_extends state.flags rest).bind _ fun _ _ => .kept (Nat.le_refl _))
  case h_5 | h_6 | h_7 => exact .inl (.bind_same lazy)
  case h_8 => exact .inl (.bind_same fun _ => plain)
  case h_9 | h_10 => exact .inl plain
  case h_11 =>
    rcases readEscape_extends state.flags rest with extends_ | ⟨error, inner, alone, closed, only⟩
    · exact .inl (extends_.bind _ fun _ _ => .bind_same fun _ => .kept (Nat.le_refl _))
    · rw [alone, closed]
      exact .inr ⟨_, error, inner, rfl, rfl, only⟩
  case h_12 =>
    refine .inl ?_
    split
    · split
      · exact readRepetition_extends state rest
      · exact .failed
    · exact .bind_same fun _ => plain

end TokenQuery.Pattern
