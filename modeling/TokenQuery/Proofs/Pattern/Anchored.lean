import TokenQuery.Proofs.Outcome
import TokenQuery.Proofs.Pattern.Enclosure
import TokenQuery.Proofs.Pattern.Escaped

/-!
Patterns that match from the start. Main statements: a pattern that closes no group but its own
reads with the anchor around it exactly when it stands by itself (`anchored_eq_ok_iff`), and with
the anchor it is found exactly in the texts that it matches from the start
(`occursIn_anchored_iff`).
-/

set_option autoImplicit false

namespace TokenQuery.Pattern

/-- The item is neither nested too deep nor too large. -/
def Item.Fits (item : Item) : Prop :=
  item.depth ≤ depthLimit ∧ item.expr.cost true ≤ sizeLimit

/-- The item with the anchor around it. -/
def Item.anchored (item : Item) : Item :=
  { expr := .seq (.look .textStart) item.expr, depth := 2 + item.depth }

/-- The text reads as the item, apart from the limits. -/
def ReadsAs (text : List Char) (item : Item) : Prop :=
  ∃ final, readItems (text.length + 1) {} text = .ok final ∧ final.frames = [] ∧
    final.branches.close = item

/-- The pattern reads by itself, a parenthesis behind it would be seen as one, which the end of a
comment would not let it, and the pattern is within the limits also with the anchor around it. -/
structure StandsAlone (text : List Char) : Prop where
  reads : ∃ expr, read text = .ok expr
  seen : read (text ++ [')']) = .error .groupUnopened
  fits : ∀ item, ReadsAs text item → item.anchored.Fits

variable {text : List Char} {item : Item} {expr : Expr} {state final : ReadState}

private theorem Item.Fits.of_anchored (fits : item.anchored.Fits) : item.Fits := by
  obtain ⟨depth, size⟩ := fits
  exact ⟨Nat.le_trans (Nat.le_add_left _ _) depth, Nat.le_trans (Nat.le_add_left _ _) size⟩

private theorem finish_eq_ok_iff :
    state.finish = .ok expr ↔
      state.frames = [] ∧ state.branches.close.Fits ∧ state.branches.close.expr = expr := by
  unfold ReadState.finish Item.Fits
  cases state.frames with
  | cons frame frames => simp
  | nil =>
    dsimp only
    split
    · rename_i deep
      simp [Nat.not_le.mpr deep]
    · rename_i shallow
      split
      · rename_i large
        simp [Nat.not_le.mpr large]
      · rename_i small
        simp [Nat.not_lt.mp shallow, Nat.not_lt.mp small]

private theorem finish_ne_groupUnopened (state : ReadState) :
    state.finish ≠ .error .groupUnopened := by
  unfold ReadState.finish
  split
  · nofun
  · dsimp only
    split
    · nofun
    · split <;> nofun

theorem read_eq_ok_iff :
    read text = .ok expr ↔ ∃ item, ReadsAs text item ∧ item.Fits ∧ item.expr = expr := by
  unfold read
  simp only [bind_eq_ok_iff, finish_eq_ok_iff, ReadsAs]
  constructor
  · rintro ⟨final, reads, unframed, fits, rfl⟩
    exact ⟨_, ⟨final, reads, unframed, rfl⟩, fits, rfl⟩
  · rintro ⟨_, ⟨final, reads, unframed, rfl⟩, fits, rfl⟩
    exact ⟨final, reads, unframed, fits, rfl⟩

private theorem read_eq_groupUnopened_iff :
    read text = .error .groupUnopened ↔
      readItems (text.length + 1) {} text = .error .groupUnopened := by
  unfold read
  cases readItems (text.length + 1) {} text with
  | error error =>
    change Except.error error = _ ↔ _
    rw [Except.error.injEq, Except.error.injEq]
  | ok state =>
    change state.finish = _ ↔ _
    simpa using finish_ne_groupUnopened state

theorem ReadsAs.unique {other : Item} (reads : ReadsAs text item) (again : ReadsAs text other) :
    item = other := by
  obtain ⟨final, done, _, rfl⟩ := reads
  obtain ⟨_, doneAgain, _, rfl⟩ := again
  rw [done] at doneAgain
  rw [Except.ok.inj doneAgain]

/-- What is set aside while the group of an anchored pattern is open. -/
def anchorFrame : Frame := ⟨{}, { items := [{ expr := .look .textStart }] }⟩

private theorem anchored_eq (pattern : String) :
    anchored pattern =
      readItems (pattern.toList.length + 4) (({} : ReadState).within [anchorFrame])
        (pattern.toList ++ [')']) >>= ReadState.finish := by
  let start : ReadState := ({} : ReadState).push { expr := .look .textStart }
  have begin_ (rest : List Char) : readStep {} '^' rest = .ok (start, rest) := rfl
  have open_ (rest : List Char) : readStep start '(' ('?' :: ':' :: rest) =
      .ok (({} : ReadState).within [anchorFrame], rest) := rfl
  have length : (anchorOpening ++ pattern.toList ++ [')']).length + 1 =
      pattern.toList.length + 4 + 1 + 1 := by simp [anchorOpening]
  have written : anchorOpening ++ pattern.toList ++ [')'] =
      '^' :: '(' :: '?' :: ':' :: (pattern.toList ++ [')']) := rfl
  rw [anchored, read, length, written, readItems_of_readStep rfl (begin_ _),
    readItems_of_readStep rfl (open_ _)]

private theorem finish_of_closeGroup (unframed : final.frames = []) :
    (final.within [anchorFrame]).closeGroup >>= ReadState.finish = .ok expr ↔
      final.branches.close.anchored.Fits ∧ final.branches.close.anchored.expr = expr := by
  let inner := final.branches.close
  let group : Item := { expr := inner.expr, depth := 1 + inner.depth }
  let ended : ReadState :=
    { final with flags := {}, branches := anchorFrame.branches.push group, frames := [] }
  have closes : (final.within [anchorFrame]).closeGroup = .ok ended := by
    unfold ReadState.closeGroup ReadState.within
    rw [unframed]
    rfl
  have whole : ended.branches.close = inner.anchored := by
    have depth : 1 + max (max 0 (1 + inner.depth)) 0 = 2 + inner.depth := by omega
    exact congrArg (Item.mk (.seq (.look .textStart) inner.expr) · true) depth
  have unframed : ended.frames = [] := rfl
  rw [closes]
  change ended.finish = .ok expr ↔ _
  rw [finish_eq_ok_iff, whole]
  simp only [unframed, true_and]
  rfl

private theorem finish_of_within (state : ReadState) :
    (state.within [anchorFrame]).finish ≠ .ok expr := by
  rw [Ne, finish_eq_ok_iff]
  rintro ⟨unframed, _⟩
  exact List.append_ne_nil_of_right_ne_nil _ (List.cons_ne_nil _ _) unframed

private theorem finish_of_closeGroup_framed (framed : final.frames ≠ []) :
    (final.within [anchorFrame]).closeGroup >>= ReadState.finish ≠ .ok expr := by
  rw [closeGroup_within framed]
  cases final.closeGroup with
  | error error => nofun
  | ok after => exact finish_of_within after

private theorem closeGroup_eq_groupUnopened_iff :
    final.closeGroup = .error .groupUnopened ↔ final.frames = [] := by
  unfold ReadState.closeGroup
  cases final.frames with
  | nil => simp
  | cons frame frames => simp

/-- Where the parenthesis ends the innermost group, the pattern reads with the anchor around it
exactly when it stands by itself. -/
private theorem finish_closed_iff (run : readItems (text.length + 1) {} text = .ok final)
    (seen : read (text ++ [')']) = .error .groupUnopened ↔ final.frames = []) :
    (final.within [anchorFrame]).closeGroup >>= ReadState.finish = .ok expr ↔
      StandsAlone text ∧
        ∃ inner, read text = .ok inner ∧ expr = .seq (.look .textStart) inner := by
  by_cases unframed : final.frames = []
  · have readsAs : ReadsAs text final.branches.close := ⟨final, run, unframed, rfl⟩
    rw [finish_of_closeGroup unframed]
    constructor
    · rintro ⟨fits, rfl⟩
      have reads := read_eq_ok_iff.mpr ⟨_, readsAs, fits.of_anchored, rfl⟩
      refine ⟨⟨⟨_, reads⟩, seen.mpr unframed, fun item again => ?_⟩, _, reads, rfl⟩
      rw [again.unique readsAs]
      exact fits
    · rintro ⟨alone, inner, reads, rfl⟩
      obtain ⟨item, again, _, rfl⟩ := read_eq_ok_iff.mp reads
      obtain rfl := again.unique readsAs
      exact ⟨alone.fits _ readsAs, rfl⟩
  · refine iff_of_false (finish_of_closeGroup_framed unframed) ?_
    rintro ⟨alone, _⟩
    exact unframed (seen.mp alone.seen)

/-- A pattern that closes no group but its own reads with the anchor around it exactly when it
stands by itself, and it then reads as what it is, with the anchor in front. -/
theorem anchored_eq_ok_iff {pattern : String}
    (own : read pattern.toList ≠ .error .groupUnopened) :
    anchored pattern = .ok expr ↔
      StandsAlone pattern.toList ∧
        ∃ inner, read pattern.toList = .ok inner ∧ expr = .seq (.look .textStart) inner := by
  have opened : readItems (pattern.toList.length + 1) {} pattern.toList ≠
      .error .groupUnopened := fun unopened => own (read_eq_groupUnopened_iff.mpr unopened)
  have seen : read (pattern.toList ++ [')']) = .error .groupUnopened ↔
      readItems (pattern.toList.length + 2) (({} : ReadState).within [])
        (pattern.toList ++ [')']) = .error .groupUnopened := by
    rw [read_eq_groupUnopened_iff, within_nil, List.length_append]
    rfl
  have encloses := readItems_encloses (Nat.lt_succ_self _) opened
  rw [anchored_eq]
  generalize run : readItems (pattern.toList.length + 1) {} pattern.toList = alone at encloses
  cases encloses with
  | @closed final closes =>
    rw [closes _ _ (Nat.le_refl _), within_nil, closeGroup_eq_groupUnopened_iff] at seen
    rw [closes _ _ (Nat.le_add_right _ 2)]
    exact finish_closed_iff run seen
  | @swallowed final ends =>
    rw [ends _ _ (Nat.le_refl _)] at seen
    rw [ends _ _ (Nat.le_add_right _ 2)]
    refine iff_of_false (finish_of_within final) ?_
    rintro ⟨alone, _⟩
    cases seen.mp alone.seen
  | failed other fails =>
    rw [fails _ _ (Nat.le_add_right _ 2)]
    refine iff_of_false nofun ?_
    rintro ⟨_, inner, reads, _⟩
    rw [read, run] at reads
    cases reads
  | unclosed final ends =>
    rw [ends _ _ (Nat.le_add_right _ 2)]
    refine iff_of_false (finish_of_within final) ?_
    rintro ⟨_, inner, reads, _⟩
    rw [read, run] at reads
    cases reads

/-- With the anchor in front an expression is found where it matches from the start of the text. -/
theorem occursIn_anchored_iff {inner : Expr} {text : List Char} :
    (Expr.seq (.look .textStart) inner).occursIn text = true ↔
      ∃ u v, text = u ++ v ∧ Expr.Matches inner none u v := by
  rw [Expr.occursIn_eq_true_iff]
  simp only [Expr.matches_seq_iff, Expr.matches_textStart_iff]
  constructor
  · rintro ⟨w, _, v, rfl, _, u, rfl, ⟨rfl, rfl⟩, matches_⟩
    exact ⟨u, v, rfl, matches_⟩
  · rintro ⟨u, v, rfl, matches_⟩
    exact ⟨[], u, v, rfl, [], u, rfl, ⟨rfl, rfl⟩, matches_⟩

end TokenQuery.Pattern
