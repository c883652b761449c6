import TokenQuery.Pattern.Bracket
import TokenQuery.Proofs.Pattern.Extension

/-!
Reading a class with a closing parenthesis behind the text. A class ends at a bracket, so that the
parenthesis comes too late for one that is not ended before, and is left behind with the rest by one
that is. Main statement: `Bracket.read_extends`.
-/

set_option autoImplicit false

namespace TokenQuery.Pattern

section Ahead

variable {flags : Flags} {c : Char} {text : List Char}

private theorem peekFrom_append {first : Option Char} (other : first ≠ some c) (sign : c ≠ ')')
    (passed : Bool) (text : List Char) :
    Flags.peekFrom first passed (text ++ [')']) = some c ↔
      Flags.peekFrom first passed text = some c := by
  induction text generalizing passed with
  | nil =>
    have closing : Flags.peekFrom first passed [')'] = some ')' := by
      simp [Flags.peekFrom, show Text.isBlank ')' = false from rfl]
    rw [List.nil_append, closing, Flags.peekFrom, Option.some_inj]
    exact ⟨fun same => absurd same.symm sign, fun same => absurd same other⟩
  | cons d rest ih =>
    simp only [List.cons_append, Flags.peekFrom]
    split
    · exact ih _
    · split
      · exact ih _
      · rfl

private theorem peek_append (sign : c ≠ ')') (visible :
    Text.isBlank c = false) (uncommented : c ≠ '#')
    (flags : Flags) (text : List Char) :
    flags.peek (text ++ [')']) = some c ↔ flags.peek text = some c := by
  unfold Flags.peek
  split
  · cases text with
    | nil =>
      have closing : Flags.peekFrom (some ')') false [')'] = some ')' := rfl
      rw [List.nil_append, List.head?_cons, closing, List.head?_nil, Flags.peekFrom,
        Option.some_inj]
      exact ⟨fun same => absurd same.symm sign, nofun⟩
    | cons d rest =>
      rw [List.cons_append, List.head?_cons, List.head?_cons]
      by_cases same : d = c
      · subst same
        simp [Flags.peekFrom, visible, uncommented]
      · rw [← List.cons_append]
        exact peekFrom_append (fun equal => same (Option.some_inj.mp equal)) sign false (d :: rest)
  · cases text with
    | nil =>
      rw [List.nil_append, List.head?_cons, List.head?_nil, Option.some_inj]
      exact ⟨fun same => absurd same.symm sign, nofun⟩
    | cons d rest => rfl

end Ahead

namespace Bracket

variable {flags : Flags} {text : List Char} {steps more : Nat}

private theorem takeHyphens_of_ne {c : Char} {rest : List Char}
    (skipped : flags.skip text = c :: rest)
    (other : c ≠ '-') : takeHyphens flags (steps + 1) text = ([], c :: rest) := by
  rw [takeHyphens, skipped]
  split
  · rename_i hyphen
    exact absurd (List.cons.inj hyphen).1 other
  · rfl

private theorem takeHyphens_cases (flags : Flags) (enough : text.length ≤ steps)
    (enoughMore : text.length < more) :
    ∃ hyphens behind, takeHyphens flags steps text = (hyphens, behind) ∧
      behind.length ≤ text.length ∧
      (takeHyphens flags more (text ++ [')']) = (hyphens, behind ++ [')']) ∨
        behind = [] ∧ takeHyphens flags more (text ++ [')']) = (hyphens, [])) := by
  induction steps generalizing text more with
  | zero =>
    obtain rfl := List.eq_nil_of_length_eq_zero (Nat.le_zero.mp enough)
    obtain ⟨further, rfl⟩ : ∃ further, more = further + 1 := ⟨more - 1, by omega⟩
    exact ⟨[], [], rfl, Nat.le_refl _, .inl (takeHyphens_of_ne (skip_closing flags) (by decide))⟩
  | succ steps ih =>
    obtain ⟨further, rfl⟩ : ∃ further, more = further + 1 := ⟨more - 1, by omega⟩
    rcases skip_cases flags text with ⟨c, rest, plain, closed, shorter⟩ | ⟨plain, closed⟩ |
      ⟨plain, closed⟩
    · by_cases hyphen : c = '-'
      · subst hyphen
        have within : rest.length ≤ steps := by omega
        have withinMore : rest.length < further := by omega
        obtain ⟨hyphens, behind, taken, length, takenMore⟩ := ih within withinMore
        refine ⟨⟨.single '-', 0⟩ :: hyphens, behind, ?_, by omega, ?_⟩
        · simp only [takeHyphens, plain, taken]
        · rcases takenMore with kept | ⟨rfl, swallowed⟩
          · exact .inl (by simp only [takeHyphens, closed, kept])
          · exact .inr ⟨rfl, by simp only [takeHyphens, closed, swallowed]⟩
      · exact ⟨[], c :: rest, takeHyphens_of_ne plain hyphen, shorter,
          .inl (takeHyphens_of_ne closed hyphen)⟩
    · refine ⟨[], [], ?_, Nat.zero_le _, .inl ?_⟩
      · simp only [takeHyphens, plain]
      · exact takeHyphens_of_ne closed (by decide)
    · refine ⟨[], [], ?_, Nat.zero_le _, .inr ⟨rfl, ?_⟩⟩
      · simp only [takeHyphens, plain]
      · simp only [takeHyphens, closed]

/-- The circumflex that can negate a class, and the text behind it. -/
def takeCircumflex : List Char → Bool × List Char
  | '^' :: rest => (true, rest)
  | text => (false, text)

private theorem takeCircumflex_of_ne {c : Char} {rest : List Char} (other : c ≠ '^') :
    takeCircumflex (c :: rest) = (false, c :: rest) := by
  unfold takeCircumflex
  split
  · rename_i negates
    exact absurd (List.cons.inj negates).1 other
  · rfl

private theorem takeCircumflex_append (text : List Char) :
    takeCircumflex (text ++ [')']) =
      ((takeCircumflex text).1, (takeCircumflex text).2 ++ [')']) := by
  cases text with
  | nil => rfl
  | cons c rest =>
    by_cases negates : c = '^'
    · subst negates
      rfl
    · rw [List.cons_append, takeCircumflex_of_ne negates, takeCircumflex_of_ne negates]
      rfl

private theorem length_takeCircumflex_le (text : List Char) :
    (takeCircumflex text).2.length ≤ text.length := by
  unfold takeCircumflex
  split
  · exact Nat.le_succ _
  · exact Nat.le_refl _

/-- The beginning of a class behind the circumflex that can negate it. -/
def openBody (flags : Flags) (negated : Bool) (text : List Char) :
    Except PatternError (Level × List Char) :=
  let (hyphens, text) := takeHyphens flags text.length text
  match flags.skip text with
  | [] => .error .classUnclosed
  | c :: rest =>
    if c = ']' ∧ hyphens = [] then
      match flags.skip rest with
      | [] => .error .classUnclosed
      | rest => .ok (⟨negated, none, [⟨.single ']', 0⟩]⟩, rest)
    else .ok (⟨negated, none, hyphens⟩, c :: rest)

private theorem openLevel_eq (flags : Flags) (text : List Char) :
    openLevel flags text =
      openBody flags (takeCircumflex (flags.skip text)).1 (takeCircumflex (flags.skip text)).2 :=
  rfl

private theorem openBody_extends (flags : Flags) (negated : Bool) (text : List Char) :
    Extends true text.length (openBody flags negated text)
      (openBody flags negated (text ++ [')'])) := by
  have longer : text.length < (text ++ [')']).length := by simp
  obtain ⟨hyphens, behind, taken, length, takenMore⟩ :=
    takeHyphens_cases flags (Nat.le_refl _) longer
  rw [openBody, openBody, taken]
  rcases takenMore with kept | ⟨rfl, swallowed⟩
  · rw [kept]
    dsimp only
    rcases skip_cases flags behind with ⟨c, rest, plain, closed, shorter⟩ | ⟨plain, closed⟩ |
      ⟨plain, closed⟩
    · rw [plain, closed]
      dsimp only
      split
      · rcases skip_cases flags rest with ⟨d, inner, plain, closed, shorter⟩ | ⟨plain, closed⟩ |
          ⟨plain, closed⟩
        · rw [plain, closed]
          exact .kept (by rw [List.length_cons]; omega)
        · rw [plain, closed]
          exact .left rfl
        · rw [plain, closed]
          exact .failed
      · exact .kept (Nat.le_trans shorter length)
    · rw [plain, closed]
      dsimp only
      rw [if_neg (by simp)]
      exact .left rfl
    · rw [plain, closed]
      exact .failed
  · rw [swallowed]
    dsimp only
    rw [skip_nil]
    exact .failed

private theorem openLevel_extends (flags : Flags) (text : List Char) :
    Extends true text.length (openLevel flags text) (openLevel flags (text ++ [')'])) := by
  rw [openLevel_eq, openLevel_eq]
  have shorter :=
    Nat.le_trans (length_takeCircumflex_le (flags.skip text)) (length_skip_le flags text)
  rcases skip_append flags text with kept | ⟨plain, closed⟩
  · rw [kept, takeCircumflex_append]
    exact (openBody_extends flags _ _).mono shorter
  · rw [plain, closed]
    exact (openBody_extends flags false []).same_of_empty

/-- The rest of a named class behind its colon and the circumflex that can negate it. -/
def namedBody? (negated : Bool) (text : List Char) : Option (Bool × CharSet × List Char) :=
  match text.dropWhile (· != ':') with
  | ':' :: ']' :: behind =>
    (namedAscii? (String.ofList (text.takeWhile (· != ':')))).map fun set => (negated, set, behind)
  | _ => none

private theorem namedBody?_append (negated : Bool) (text : List Char) :
    namedBody? negated (text ++ [')']) =
      (namedBody? negated text).map fun (negated, set, behind) =>
        (negated, set, behind ++ [')']) := by
  unfold namedBody?
  rcases span_cases (· != ':') text with ⟨c, behind, plain, closed, taken, shorter⟩ |
    ⟨plain, closed⟩
  · rw [plain, closed, taken]
    rcases behind with _ | ⟨d, behind⟩
    · split <;> split <;> simp_all
    · split <;> split <;> simp_all [Option.map_map, Function.comp_def]
  · rw [plain, closed (by decide)]
    rfl

private theorem length_lt_of_namedBody? {negated other : Bool} {set : CharSet} {behind : List Char}
    (named : namedBody? negated text = some (other, set, behind)) :
    behind.length < text.length := by
  unfold namedBody? at named
  split at named
  · rename_i tail spanned
    simp only [Option.map_eq_some_iff, Prod.mk.injEq] at named
    obtain ⟨_, _, _, _, rfl⟩ := named
    have shorter := (List.dropWhile_suffix (l := text) (· != ':')).length_le
    rw [spanned, List.length_cons, List.length_cons] at shorter
    omega
  · cases named

private theorem readNamed?_eq (c : Char) (rest : List Char) :
    readNamed? (c :: rest) =
      if c = ':' then namedBody? (takeCircumflex rest).1 (takeCircumflex rest).2 else none := by
  split
  · rename_i colon
    subst colon
    rfl
  · rename_i other
    unfold readNamed?
    split
    · rename_i opens
      exact absurd (List.cons.inj opens).1 other
    · rfl

private theorem readNamed?_append (text : List Char) :
    readNamed? (text ++ [')']) =
      (readNamed? text).map fun (negated, set, behind) => (negated, set, behind ++ [')']) := by
  cases text with
  | nil => rfl
  | cons c rest =>
    rw [List.cons_append, readNamed?_eq, readNamed?_eq]
    split
    · rw [takeCircumflex_append, namedBody?_append]
    · rfl

private theorem length_lt_of_readNamed? {negated : Bool} {set : CharSet} {behind : List Char}
    (named : readNamed? text = some (negated, set, behind)) : behind.length < text.length := by
  cases text with
  | nil => cases named
  | cons c rest =>
    rw [readNamed?_eq] at named
    split at named
    · have shorter := length_lt_of_namedBody? named
      have within := length_takeCircumflex_le rest
      rw [List.length_cons]
      omega
    · cases named

private theorem readAtom_extends (flags : Flags) (c : Char) (rest : List Char) :
    Extends false rest.length (readAtom flags c rest) (readAtom flags c (rest ++ [')'])) ∨
      Dangles flags (.look (.word flags.unicode .boundary)) (readAtom flags c rest)
        (readAtom flags c (rest ++ [')'])) := by
  unfold readAtom
  split
  · exact readEscape_extends flags rest
  · exact .inl (.kept (Nat.le_refl _))

/-- The range from one atom to another, in front of the text that is left. -/
def range (flags : Flags) (first second : Atom) (behind : List Char) :
    Except PatternError (Part × List Char) := do
  let low ← boundChar flags first
  let high ← boundChar flags second
  if low ≤ high then return (⟨.range low high, 0⟩, behind) else .error .classRange

/-- What follows the hyphen of a range. -/
def closeRange (flags : Flags) (first : Atom) (text : List Char) :
    Except PatternError (Part × List Char) :=
  match flags.skip text with
  | [] => .error .classUnclosed
  | e :: behind => readAtom flags e behind >>= fun (second, behind) =>
    range flags first second behind

/-- What follows the first atom of an item. -/
def closeItem (flags : Flags) (first : Atom) (text : List Char) :
    Except PatternError (Part × List Char) :=
  match flags.skip text with
  | [] => .error .classUnclosed
  | d :: behind =>
    if d = '-' ∧ flags.peek behind ≠ some ']' ∧ flags.peek behind ≠ some '-' then
      closeRange flags first behind
    else do return (← ofAtom flags first, d :: behind)

private theorem readItem_eq (flags : Flags) (c : Char) (rest : List Char) :
    readItem flags c rest =
      readAtom flags c rest >>= fun (first, behind) => closeItem flags first behind :=
  rfl

private theorem range_extends (flags : Flags) (first second : Atom) (behind : List Char) :
    Extends false behind.length (range flags first second behind)
      (range flags first second (behind ++ [')'])) := by
  refine .bind_same fun low => .bind_same fun high => ?_
  split
  · exact .kept (Nat.le_refl _)
  · exact .failed

private theorem exists_range_look_eq_error (flags : Flags) (first : Atom) (look : Look)
    (behind : List Char) : ∃ error, range flags first (.look look) behind = .error error := by
  unfold range
  cases boundChar flags first with
  | error error => exact ⟨error, rfl⟩
  | ok low => exact ⟨.classRange, rfl⟩

private theorem closeRange_extends (flags : Flags) (first : Atom) (text : List Char) :
    Extends false text.length (closeRange flags first text)
      (closeRange flags first (text ++ [')'])) := by
  unfold closeRange
  rcases skip_cases flags text with ⟨e, rest, plain, closed, shorter⟩ | ⟨plain, closed⟩ |
    ⟨plain, closed⟩
  · rw [plain, closed]
    rcases readAtom_extends flags e rest with extends_ | ⟨error, inner, alone, beyond, _⟩
    · exact (extends_.bind _ fun second behind => range_extends flags first second behind).mono
        (Nat.le_of_lt shorter)
    · obtain ⟨other, fails⟩ := exists_range_look_eq_error flags first
        (.word flags.unicode .boundary) (Char.ofNat 0x7B :: inner)
      dsimp only
      rw [alone, beyond]
      change Extends _ _ (.error error) (range flags first _ _)
      rw [fails]
      exact .failed
  · rw [plain, closed]
    exact (range_extends flags first (.literal ')' false) []).of_empty
  · rw [plain, closed]
    exact .failed

private theorem closeItem_extends (flags : Flags) (first : Atom) (text : List Char) :
    Extends true text.length (closeItem flags first text)
      (closeItem flags first (text ++ [')'])) := by
  unfold closeItem
  rcases skip_cases flags text with ⟨d, rest, plain, closed, shorter⟩ | ⟨plain, closed⟩ |
    ⟨plain, closed⟩
  · rw [plain, closed]
    have bracket := peek_append (c := ']') (by decide) (by decide) (by decide) flags rest
    have hyphen := peek_append (c := '-') (by decide) (by decide) (by decide) flags rest
    simp only [ne_eq, bracket, hyphen]
    split
    · exact (closeRange_extends flags first rest).allow.mono (Nat.le_of_lt shorter)
    · exact .bind_same fun _ => .kept shorter
  · rw [plain, closed]
    dsimp only
    rw [if_neg (by simp)]
    cases ofAtom flags first with
    | error error => exact .failed
    | ok part => exact .left rfl
  · rw [plain, closed]
    exact .failed

private theorem readItem_extends (flags : Flags) (c : Char) (rest : List Char) :
    Extends true rest.length (readItem flags c rest) (readItem flags c (rest ++ [')'])) := by
  rw [readItem_eq, readItem_eq]
  rcases readAtom_extends flags c rest with extends_ | ⟨error, inner, alone, beyond, _⟩
  · exact extends_.allow.bind _ fun first behind => closeItem_extends flags first behind
  · -- The brace is no hyphen, and the assertion in front of it no member of a class.
    have brace : flags.skip (Char.ofNat 0x7B :: inner) = Char.ofNat 0x7B :: inner := by
      unfold Flags.skip
      split <;> rfl
    rw [alone, beyond]
    change Extends _ _ (.error error) (closeItem flags _ _)
    rw [closeItem, brace]
    dsimp only
    rw [if_neg (by simp)]
    exact .failed

private theorem readFrom_nil (flags : Flags) (steps : Nat) (level : Level) (outer : List Level) :
    readFrom flags steps level outer [] = .error .classUnclosed := by
  cases steps with
  | zero => rfl
  | succ steps => rw [readFrom, skip_nil]

private theorem readFrom_closing (flags : Flags) (steps : Nat) (level : Level)
    (outer : List Level) :
    readFrom flags steps level outer [')'] = .error .classUnclosed := by
  cases steps with
  | zero => rfl
  | succ steps =>
    have item : readItem flags ')' [] = .error .classUnclosed := by
      rw [readItem_eq]
      change closeItem flags _ [] = _
      rw [closeItem, skip_nil]
    rw [readFrom, skip_closing]
    dsimp only [List.head?_nil, Option.bind_none]
    rw [if_neg (by decide), if_neg (by decide), item]
    rfl

private theorem readFrom_unclosed (flags : Flags) (steps more further : Nat) (level : Level)
    (outer : List Level) :
    readFrom flags steps level outer [] = .error .classUnclosed ∧
      readFrom flags more level outer [] = .error .classUnclosed ∧
      readFrom flags further level outer [')'] = .error .classUnclosed :=
  ⟨readFrom_nil flags steps level outer, readFrom_nil flags more level outer,
    readFrom_closing flags further level outer⟩

private theorem operation?_closing (c : Char) : operation? c ')' = none := by
  unfold operation?
  split <;> first | rfl | simp_all

private theorem head?_bind_operation? (c : Char) (rest : List Char) :
    (rest ++ [')']).head?.bind (operation? c) = rest.head?.bind (operation? c) := by
  cases rest with
  | nil => exact operation?_closing c
  | cons d tail => rfl

private theorem readFrom_extends (flags : Flags) (level : Level) (outer : List Level)
    (enough : text.length < steps) (enoughMore : text.length + 1 < more) :
    Extends false text.length (readFrom flags steps level outer text)
      (readFrom flags more level outer (text ++ [')'])) := by
  induction steps generalizing text more level outer with
  | zero => exact absurd enough (Nat.not_lt_zero _)
  | succ steps ih =>
    obtain ⟨further, rfl⟩ : ∃ further, more = further + 1 := ⟨more - 1, by omega⟩
    rw [readFrom, readFrom]
    rcases skip_cases flags text with ⟨c, rest, plain, closed, shorter⟩ | ⟨plain, closed⟩ |
      ⟨plain, closed⟩
    · have onward (level : Level) (outer : List Level) (behind : List Char)
          (length : behind.length ≤ rest.length) : Extends false behind.length
          (readFrom flags steps level outer behind)
          (readFrom flags further level outer (behind ++ [')'])) :=
        ih level outer (by omega) (by omega)
      have within (behind : List Char) (length : behind.length ≤ rest.length) :
          behind.length ≤ text.length := by omega
      rw [plain, closed]
      dsimp only
      rw [head?_bind_operation?]
      split
      · rename_i operation doubled
        cases rest with
        | nil => cases doubled
        | cons d tail =>
          have length : tail.length ≤ (d :: tail).length := Nat.le_succ _
          exact (onward _ _ tail length).mono (within _ length)
      · split
        · refine .bind_same fun part => ?_
          cases outer with
          | nil => exact .kept (Nat.le_of_lt shorter)
          | cons above outer => exact (onward _ _ rest (Nat.le_refl _)).mono (Nat.le_of_lt shorter)
        · split
          · rw [readNamed?_append]
            cases named : readNamed? rest with
            | some found =>
              obtain ⟨negated, set, behind⟩ := found
              have length := Nat.le_of_lt (length_lt_of_readNamed? named)
              exact .bind_same fun set => (onward _ _ behind length).mono (within _ length)
            | none =>
              refine ((openLevel_extends flags rest).bind_unclosed .classUnclosed ?_ ?_).mono
                (Nat.le_of_lt shorter)
              · exact fun inner => readFrom_unclosed flags _ _ _ _ _
              · exact fun inner behind length => onward _ _ behind length
          · refine ((readItem_extends flags c rest).bind_unclosed .classUnclosed ?_ ?_).mono
              (Nat.le_of_lt shorter)
            · exact fun part => readFrom_unclosed flags _ _ _ _ _
            · exact fun part behind length => onward _ _ behind length
    · have unclosed := readFrom_closing flags (further + 1) level outer
      rw [readFrom, skip_closing] at unclosed
      rw [plain, closed, unclosed]
      exact .failed
    · rw [plain, closed]
      exact .failed

/-- A class is read the same with a closing parenthesis behind the text. -/
theorem read_extends (flags : Flags) (text : List Char) :
    Extends false text.length (Bracket.read flags text) (Bracket.read flags (text ++ [')'])) := by
  refine (openLevel_extends flags text).bind_unclosed .classUnclosed ?_ ?_
  · exact fun level => readFrom_unclosed flags _ _ _ level []
  · exact fun level behind _ => readFrom_extends flags level [] (by omega) (by simp)

end Bracket

end TokenQuery.Pattern
