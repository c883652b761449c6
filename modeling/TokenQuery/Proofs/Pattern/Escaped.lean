import TokenQuery.Pattern.Grammar
import TokenQuery.Pattern.Match

/-!
Patterns with escaped text. Main statements: a text that was escaped is read character by character
(`readItems_escape`), and the pattern of an escaped text with at least one more character behind it
occurs exactly in the texts that begin so (`anchored_escape`, `occursIn_opening_iff`).
-/

set_option autoImplicit false

namespace TokenQuery.Pattern

/-- The expression of a character that stands for itself. -/
def Expr.literal (c : Char) : Expr := .chars (.single c)

/-- The state with an item for each character of a text. -/
def ReadState.pushText (state : ReadState) (text : List Char) : ReadState :=
  text.foldl (fun state c => state.push { expr := .literal c }) state

section Reading

variable {state after : ReadState} {c : Char} {text rest behind : List Char} {steps need : Nat}

theorem readItems_of_readStep (plain : state.flags = {})
    (step : readStep state c rest = .ok (after, behind)) :
    readItems (steps + 1) state (c :: rest) = readItems steps after behind := by
  have unskipped : state.flags.skip (c :: rest) = c :: rest := by
    rw [plain]
    rfl
  rw [readItems, unskipped]
  simp only [step]
  rfl

private theorem readStep_of_not_isMeta (plain : state.flags = {}) (meaningless : isMeta c = false) :
    readStep state c rest = .ok (state.push { expr := .literal c }, rest) := by
  unfold readStep
  split
  case h_12 =>
    rw [if_neg, plain]
    · rfl
    · rintro rfl
      exact absurd meaningless (by decide)
  all_goals exact absurd meaningless (by decide)

private theorem readEscape_of_isMeta (meaningful : isMeta c = true) :
    readEscape {} (c :: rest) = .ok (.literal c false, rest) := by
  have escapable : ['\\', '.', '+', '*', '?', '(', ')', '|', '[', ']', Char.ofNat 0x7B,
      Char.ofNat 0x7D, '^', '$', '#', '&', '-', '~'].all
        (fun d => !d.isDigit && isEscapable d) = true := rfl
  have allowed := List.all_eq_true.mp escapable c (List.contains_iff_mem.mp meaningful)
  obtain ⟨noDigit, escaped⟩ : c.isDigit = false ∧ isEscapable c = true := by simpa using allowed
  unfold readEscape
  dsimp only
  rw [if_neg (by simp [noDigit]), if_pos escaped]

private theorem readStep_of_isMeta (plain : state.flags = {}) (meaningful : isMeta c = true) :
    readStep state '\\' (c :: rest) = .ok (state.push { expr := .literal c }, rest) := by
  have step : readStep state '\\' (c :: rest) = (do
      let read ← readEscape state.flags (c :: rest)
      return (state.push (← read.1.item state.flags), read.2)) := rfl
  rw [step, plain, readEscape_of_isMeta meaningful]
  rfl

/-- Reading an escaped text adds an item for each of its characters. There are at least as many
steps to read it as it has characters. -/
theorem readItems_escape (plain : state.flags = {}) (enough : (escape text).length + need ≤ steps)
    (rest : List Char) :
    ∃ left, need ≤ left ∧
      readItems steps state (escape text ++ rest) = readItems left (state.pushText text) rest := by
  induction text generalizing state steps with
  | nil => exact ⟨steps, by simpa [escape] using enough, rfl⟩
  | cons c text ih =>
    have next : (state.push { expr := .literal c }).flags = {} := plain
    cases special : isMeta c with
    | true =>
      have written : escape (c :: text) = '\\' :: c :: escape text := by
        simp [escape, special]
      rw [written, List.length_cons, List.length_cons] at enough
      obtain ⟨fuel, rfl⟩ : ∃ fuel, steps = fuel + 1 := ⟨steps - 1, by omega⟩
      have remaining : (escape text).length + need ≤ fuel := by omega
      obtain ⟨left, least, reads⟩ := ih next remaining
      refine ⟨left, least, ?_⟩
      rw [written, List.cons_append, List.cons_append,
        readItems_of_readStep plain (readStep_of_isMeta plain special), reads]
      rfl
    | false =>
      have written : escape (c :: text) = c :: escape text := by
        simp [escape, special]
      rw [written, List.length_cons] at enough
      obtain ⟨fuel, rfl⟩ : ∃ fuel, steps = fuel + 1 := ⟨steps - 1, by omega⟩
      have remaining : (escape text).length + need ≤ fuel := by omega
      obtain ⟨left, least, reads⟩ := ih next remaining
      refine ⟨left, least, ?_⟩
      rw [written, List.cons_append,
        readItems_of_readStep plain (readStep_of_not_isMeta plain special), reads]
      rfl

end Reading

section Items

variable {items : List Item} {bound : Nat}

private theorem sequence_expr (items : List Item) :
    (sequence items).expr = .seqs (items.reverse.map (·.expr)) := by
  match items with
  | [] | [_] | _ :: _ :: _ => rfl

private theorem foldl_max_le {depths : List Nat} {start : Nat} (least : start ≤ bound)
    (below : ∀ depth ∈ depths, depth ≤ bound) : depths.foldl max start ≤ bound := by
  induction depths generalizing start with
  | nil => exact least
  | cons depth rest ih =>
    obtain ⟨here, later⟩ := List.forall_mem_cons.mp below
    exact ih (Nat.max_le.mpr ⟨least, here⟩) later

private theorem sequence_depth_le (below : ∀ item ∈ items, item.depth ≤ bound) :
    (sequence items).depth ≤ 1 + bound := by
  match items with
  | [] => exact Nat.zero_le _
  | [item] => exact Nat.le_add_left_of_le (below item (.head _))
  | first :: second :: rest =>
    refine Nat.add_le_add_left (foldl_max_le (Nat.zero_le _) ?_) 1
    rw [List.forall_mem_map]
    exact below

private theorem pushText_eq (state : ReadState) (text : List Char) :
    state.pushText text =
      { state with
        branches := { state.branches with
          items :=
            text.reverse.map (fun c => { expr := .literal c }) ++ state.branches.items } } := by
  induction text generalizing state with
  | nil => rfl
  | cons c text ih =>
    have step : state.pushText (c :: text) =
        (state.push { expr := .literal c }).pushText text := rfl
    rw [step, ih]
    simp [ReadState.push, Branches.push]

end Items

/-- The expression of the texts that begin with a given one and go on with a character other than a
line feed. -/
def Expr.opening (text : List Char) : Expr :=
  .seq (.look .textStart)
    (.seqs (text.map .literal ++ [.repeated (.chars (.compl (.single '\n'))) 1 none]))

/-- The characters of a text in front of an expression take no room, however many they are. -/
private theorem cost_seqs_literals (text : List Char) (e : Expr) :
    (Expr.seqs (text.map .literal ++ [e])).cost true = e.cost true := by
  induction text with
  | nil => rfl
  | cons c rest ih =>
    have spelled : (Expr.literal c).cost true = 0 := by
      simp [Expr.literal, CharSet.single, Expr.cost]
    obtain ⟨next, others, split⟩ := List.exists_cons_of_ne_nil
      (List.append_ne_nil_of_right_ne_nil (rest.map Expr.literal) (List.cons_ne_nil e []))
    have sequence : Expr.seqs (Expr.literal c :: next :: others) =
        .seq (.literal c) (.seqs (next :: others)) := rfl
    rw [split] at ih
    rw [List.map_cons, List.cons_append, split, sequence, Expr.cost, spelled, ih, Nat.zero_add]

private theorem cost_opening (text : List Char) : (Expr.opening text).cost true = 1152 := by
  rw [Expr.opening, Expr.cost, cost_seqs_literals]
  rfl

/-- The items of an escaped text with a dot and a plus sign behind it, the last one first. -/
private def openingItems (text : List Char) : List Item :=
  { expr := .repeated (.chars (.compl (.single '\n'))) 1 none, depth := 1 } ::
    text.reverse.map fun c => { expr := .literal c }

/-- The state behind the group of an escaped text with a dot and a plus sign. -/
private def openingState (text : List Char) : ReadState :=
  { branches := { items := [
      { expr := (sequence (openingItems text)).expr
        depth := 1 + (sequence (openingItems text)).depth },
      { expr := .look .textStart }] } }

private theorem readItems_opening (text : List Char) :
    readItems ((escape text).length + 8) {}
      ('^' :: '(' :: '?' :: ':' :: (escape text ++ ['.', '+', ')'])) = .ok (openingState text) := by
  let start : ReadState := ({} : ReadState).push { expr := .look .textStart }
  let inside : ReadState := start.openGroup {}
  have begin_ : readStep {} '^' ('(' :: '?' :: ':' :: (escape text ++ ['.', '+', ')'])) =
      .ok (start, '(' :: '?' :: ':' :: (escape text ++ ['.', '+', ')'])) := rfl
  have open_ : readStep start '(' ('?' :: ':' :: (escape text ++ ['.', '+', ')'])) =
      .ok (inside, escape text ++ ['.', '+', ')']) := rfl
  rw [readItems_of_readStep rfl begin_, readItems_of_readStep rfl open_]
  have plain : inside.flags = {} := rfl
  have enough : (escape text).length + 4 ≤ (escape text).length + 6 := by omega
  obtain ⟨left, least, reads⟩ := readItems_escape plain enough ['.', '+', ')']
  obtain ⟨spare, rfl⟩ : ∃ spare, left = spare + 4 := ⟨left - 4, by omega⟩
  have pushed : inside.pushText text =
      { inside with
        branches := { items := text.reverse.map fun c => { expr := .literal c } } } := by
    simp [pushText_eq, inside, ReadState.openGroup]
  rw [reads, pushed]
  rfl

/-- An escaped text with a dot and a plus sign behind it reads as the expression of the texts that
begin so. -/
theorem anchored_escape (text : List Char) :
    anchored (String.ofList (escape text ++ ['.', '+'])) = .ok (.opening text) := by
  let items := openingItems text
  have written : anchorOpening ++ (escape text ++ ['.', '+']) ++ [')'] =
      '^' :: '(' :: '?' :: ':' :: (escape text ++ ['.', '+', ')']) := by
    simp [anchorOpening]
  have length : ('^' :: '(' :: '?' :: ':' :: (escape text ++ ['.', '+', ')'])).length + 1 =
      (escape text).length + 8 := by simp
  have shallow : ∀ item ∈ items, item.depth ≤ 1 := by
    simp [items, openingItems]
  have depth : (sequence items).depth ≤ 2 := sequence_depth_le shallow
  have inner : (sequence items).expr =
      .seqs (text.map .literal ++ [.repeated (.chars (.compl (.single '\n'))) 1 none]) := by
    simp [sequence_expr, items, openingItems, Function.comp_def]
  have closed : (openingState text).branches.close.expr = .opening text := by
    rw [Expr.opening, ← inner]
    rfl
  have nested : ∀ item ∈ (openingState text).branches.items, item.depth ≤ 3 := by
    simp only [openingState, List.forall_mem_cons]
    exact ⟨Nat.add_le_add_left depth 1, Nat.zero_le 3, nofun⟩
  have level : (openingState text).branches.close.depth ≤ 4 := sequence_depth_le nested
  have permitted : ¬ depthLimit < (openingState text).branches.close.depth :=
    Nat.not_lt.mpr (Nat.le_trans level (by decide))
  have small : ¬ sizeLimit < (Expr.opening text).cost true := by
    rw [cost_opening]
    decide
  have finished : (openingState text).finish = .ok (.opening text) := by
    have unframed : (openingState text).frames = [] := rfl
    rw [ReadState.finish, unframed]
    dsimp only
    rw [if_neg permitted, closed, if_neg small]
  rw [anchored, String.toList_ofList, written, read, length, readItems_opening]
  exact finished

namespace Expr

variable {before : Option Char} {taken after : List Char}

private theorem matches_seqs_cons_iff {e : Expr} {rest : List Expr} :
    Matches (.seqs (e :: rest)) before taken after ↔
      ∃ u v, taken = u ++ v ∧ Matches e before u (v ++ after) ∧
        Matches (.seqs rest) (lastOr before u) v after := by
  cases rest with
  | nil =>
    constructor
    · intro h
      exact ⟨taken, [], (List.append_nil _).symm, h, .empty⟩
    · rintro ⟨u, v, rfl, first, second⟩
      cases second
      rw [List.append_nil]
      exact first
  | cons next rest => exact matches_seq_iff

private theorem matches_literal_iff {c : Char} :
    Matches (.literal c) before taken after ↔ taken = [c] := by
  constructor
  · intro h
    cases h with
    | chars member =>
      rw [CharSet.contains_single, decide_eq_true_iff] at member
      rw [member]
  · rintro rfl
    exact .chars (by rw [CharSet.contains_single, decide_eq_true_iff])

private theorem matches_seqs_literals_iff {text : List Char} {rest : List Expr} :
    Matches (.seqs (text.map .literal ++ rest)) before taken after ↔
      ∃ v, taken = text ++ v ∧ Matches (.seqs rest) (lastOr before text) v after := by
  induction text generalizing before taken with
  | nil =>
    constructor
    · exact fun h => ⟨taken, rfl, h⟩
    · rintro ⟨v, rfl, h⟩
      exact h
  | cons c text ih =>
    rw [List.map_cons, List.cons_append, matches_seqs_cons_iff]
    simp only [matches_literal_iff, ih]
    constructor
    · rintro ⟨_, _, rfl, rfl, v, rfl, h⟩
      exact ⟨v, rfl, h⟩
    · rintro ⟨v, rfl, h⟩
      exact ⟨[c], text ++ v, rfl, rfl, v, rfl, h⟩

private theorem exists_matches_some_chars_iff {set : CharSet} {text : List Char} :
    (∃ u v, text = u ++ v ∧ Matches (.repeated (.chars set) 1 none) before u v) ↔
      ∃ c rest, text = c :: rest ∧ set.contains c = true := by
  constructor
  · rintro ⟨u, v, rfl, h⟩
    cases h with
    | round first others =>
      cases first with
      | chars member => exact ⟨_, _, rfl, member⟩
  · rintro ⟨c, rest, rfl, member⟩
    exact ⟨[c], rest, rfl, .round (u := [c]) (v := []) (.chars member) .done⟩

private theorem lastOr_eq_none_iff {text : List Char} :
    lastOr before text = none ↔ before = none ∧ text = [] := by
  induction text generalizing before with
  | nil => simp
  | cons c rest ih =>
    rw [lastOr_cons, ih]
    simp

theorem matches_textStart_iff {text : List Char} :
    Matches (.look .textStart) (lastOr none text) taken after ↔ text = [] ∧ taken = [] := by
  constructor
  · intro h
    cases h with
    | look holds =>
      rw [Look.holds, Option.isNone_iff_eq_none, lastOr_eq_none_iff] at holds
      exact ⟨holds.2, rfl⟩
  · rintro ⟨rfl, rfl⟩
    exact .look rfl

/-- The expression of the texts that begin with a given one occurs exactly in these. -/
theorem occursIn_opening_iff {start text : List Char} :
    (opening start).occursIn text = true ↔ ∃ c rest, text = start ++ c :: rest ∧ c ≠ '\n' := by
  have other (c : Char) : (CharSet.compl (.single '\n')).contains c = true ↔ c ≠ '\n' := by
    simp [CharSet.contains]
  have going_on (tail : List Char) :
      (∃ u v, tail = u ++ v ∧
        Matches (.repeated (.chars (.compl (.single '\n'))) 1 none) (lastOr none start) u v) ↔
        ∃ c rest, tail = c :: rest ∧ c ≠ '\n' := by
    rw [exists_matches_some_chars_iff]
    simp only [other]
  simp only [occursIn_eq_true_iff, opening, matches_seq_iff, matches_textStart_iff,
    matches_seqs_literals_iff]
  constructor
  · rintro ⟨w, _, v, rfl, _, _, rfl, ⟨rfl, rfl⟩, u, rfl, h⟩
    obtain ⟨c, rest, begins, ordinary⟩ := (going_on _).mp ⟨u, v, rfl, h⟩
    refine ⟨c, rest, ?_, ordinary⟩
    rw [List.nil_append, List.nil_append, List.append_assoc, begins]
  · rintro ⟨c, rest, rfl, ordinary⟩
    obtain ⟨u, v, split, h⟩ := (going_on _).mpr ⟨c, rest, rfl, ordinary⟩
    refine ⟨[], start ++ u, v, ?_, [], start ++ u, rfl, ⟨rfl, rfl⟩, u, rfl, h⟩
    rw [List.nil_append, List.append_assoc, split]

end Expr

end TokenQuery.Pattern
