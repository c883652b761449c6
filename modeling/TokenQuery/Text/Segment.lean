/-!
Segments of a text: prefixes, occurrences of one text in another, and replacing them.
Texts are lists of characters here; the wrappers on strings say what the rest of the library uses.
-/

set_option autoImplicit false

namespace TokenQuery.Text

/-- The parts of `text` between the occurrences of `mark`: always one more than there are
occurrences. -/
def parts (mark : Char) (text : String) : List String :=
  (text.toList.splitOn mark).map String.ofList

def joined (mark : Char) (texts : List String) : String :=
  String.ofList ([mark].intercalate (texts.map String.toList))

/-- Drops the byte order mark that a text may begin with. -/
def withoutMark (text : String) : String :=
  match text.toList with
  | c :: rest => if c.toNat = 0xFEFF then String.ofList rest else text
  | [] => text

def startsWith (text start : String) : Bool :=
  start.toList.isPrefixOf text.toList

/-- What remains of `text` after `start`, when it begins with it. -/
def after? : List Char → List Char → Option (List Char)
  | [], text => some text
  | _ :: _, [] => none
  | s :: start, c :: text => if s = c then after? start text else none

def occursIn (part : List Char) : List Char → Bool
  | [] => part.isEmpty
  | c :: text => part.isPrefixOf (c :: text) || occursIn part text

def contains (text part : String) : Bool :=
  occursIn part.toList text.toList

/-- Reads from left to right and writes `new` for every occurrence of `old` that does not overlap an
earlier one; `skip` counts the characters of the present occurrence still to be dropped. -/
private def replaceFrom (old new : List Char) : Nat → List Char → List Char
  | _, [] => []
  | skip + 1, _ :: text => replaceFrom old new skip text
  | 0, c :: text =>
    if old.isPrefixOf (c :: text) then new ++ replaceFrom old new (old.length - 1) text
    else c :: replaceFrom old new 0 text

/-- `text` with every occurrence of the non-empty `old` replaced by `new`. -/
def replaced (old new text : String) : String :=
  String.ofList (replaceFrom old.toList new.toList 0 text.toList)

/-- The result is the text with `new` for each occurrence of `old`: the pieces between the
occurrences are the same in both. -/
def Replaces (old new text result : List Char) : Prop :=
  ∃ pieces : List (List Char), pieces ≠ [] ∧ (∀ piece ∈ pieces, ¬ old <:+: piece) ∧
    text = old.intercalate pieces ∧ result = new.intercalate pieces

section Replace

variable {old new : List Char}

private theorem replaceFrom_eq_drop (skip : Nat) (text : List Char) :
    replaceFrom old new skip text = replaceFrom old new 0 (text.drop skip) := by
  induction text generalizing skip with
  | nil => cases skip <;> simp [replaceFrom]
  | cons c text ih =>
    cases skip with
    | zero => rfl
    | succ skip => rw [replaceFrom, ih, List.drop_succ_cons]

private theorem replaceFrom_append (nonempty : old ≠ []) (rest : List Char) :
    replaceFrom old new 0 (old ++ rest) = new ++ replaceFrom old new 0 rest := by
  cases old with
  | nil => exact absurd rfl nonempty
  | cons o tail =>
    have starts : (o :: tail).isPrefixOf (o :: (tail ++ rest)) = true :=
      List.isPrefixOf_iff_prefix.mpr (List.prefix_append (o :: tail) rest)
    rw [List.cons_append, replaceFrom, if_pos starts, replaceFrom_eq_drop, List.length_cons,
      Nat.add_sub_cancel, List.drop_left]

private theorem replaceFrom_cons {c : Char} {text : List Char} (other : ¬ old <+: c :: text) :
    replaceFrom old new 0 (c :: text) = c :: replaceFrom old new 0 text := by
  have unlike : ¬ old.isPrefixOf (c :: text) = true := by
    rw [List.isPrefixOf_iff_prefix]
    exact other
  rw [replaceFrom, if_neg unlike]

private theorem replaces_replaceFrom (nonempty : old ≠ []) (text : List Char) :
    Replaces old new text (replaceFrom old new 0 text) := by
  -- The induction is on the length, since an occurrence is left behind as a whole.
  induction size : text.length using Nat.strongRecOn generalizing text with
  | ind length shorter =>
    by_cases occurs : old <+: text
    · obtain ⟨rest, rfl⟩ := occurs
      have less : rest.length < length := by
        have := List.length_pos_iff.mpr nonempty
        rw [List.length_append] at size
        omega
      obtain ⟨pieces, some_piece, free, split, joined⟩ := shorter _ less rest rfl
      obtain ⟨piece, others, rfl⟩ := List.exists_cons_of_ne_nil some_piece
      refine ⟨[] :: piece :: others, List.cons_ne_nil _ _, ?_, ?_, ?_⟩
      · rw [List.forall_mem_cons, List.infix_nil]
        exact ⟨nonempty, free⟩
      · rw [List.intercalate_cons_cons, ← split, List.nil_append]
      · rw [replaceFrom_append nonempty, joined, List.intercalate_cons_cons, List.nil_append]
    · cases text with
      | nil =>
        refine ⟨[[]], List.cons_ne_nil _ _, ?_, by simp, by simp [replaceFrom]⟩
        simpa [List.infix_nil] using nonempty
      | cons c text =>
        have less : text.length < length := by
          rw [List.length_cons] at size
          omega
        obtain ⟨pieces, some_piece, free, split, joined⟩ := shorter _ less text rfl
        obtain ⟨piece, others, rfl⟩ := List.exists_cons_of_ne_nil some_piece
        have before : piece <+: text := by
          rw [split]
          cases others with
          | nil => simp
          | cons other rest =>
            rw [List.intercalate_cons_cons, List.append_assoc]
            exact List.prefix_append _ _
        have longer (sep : List Char) :
            sep.intercalate ((c :: piece) :: others) = c :: sep.intercalate (piece :: others) := by
          cases others <;> simp
        obtain ⟨free_piece, free_others⟩ := List.forall_mem_cons.mp free
        refine ⟨(c :: piece) :: others, List.cons_ne_nil _ _, ?_, ?_, ?_⟩
        · rw [List.forall_mem_cons, List.infix_cons_iff]
          refine ⟨?_, free_others⟩
          rintro (starts | inside)
          · exact occurs (starts.trans (List.cons_prefix_cons.mpr ⟨rfl, before⟩))
          · exact free_piece inside
        · rw [longer, ← split]
        · rw [replaceFrom_cons occurs, joined, longer]

private theorem not_prefix_of_piece {o c : Char} {tail piece rest : List Char} (once : o ∉ tail)
    (free : ¬ (o :: tail) <:+: c :: piece) (follows : rest = [] ∨ (o :: tail) <+: rest) :
    ¬ (o :: tail) <+: c :: piece ++ rest := by
  intro starts
  rcases Nat.le_total (o :: tail).length (c :: piece).length with short | long
  · have inside := List.prefix_of_prefix_length_le starts (List.prefix_append _ _) short
    exact free inside.isInfix
  · obtain ⟨more, whole⟩ := List.prefix_of_prefix_length_le (List.prefix_append _ rest) starts long
    cases more with
    | nil =>
      rw [List.append_nil] at whole
      exact free (whole ▸ List.infix_refl _)
    | cons m more =>
      rw [← whole, List.prefix_append_right_inj] at starts
      rcases follows with rfl | ⟨after, rfl⟩
      · exact absurd (List.prefix_nil.mp starts) (List.cons_ne_nil _ _)
      · obtain ⟨rfl, _⟩ := List.cons_prefix_cons.mp starts
        rw [List.cons_append, List.cons.injEq] at whole
        rw [← whole.2] at once
        exact once (List.mem_append_right _ (List.mem_cons_self ..))

private theorem replaceFrom_piece (new : List Char) {o : Char} {tail piece rest : List Char}
    (once : o ∉ tail) (free : ¬ (o :: tail) <:+: piece)
    (follows : rest = [] ∨ (o :: tail) <+: rest) :
    replaceFrom (o :: tail) new 0 (piece ++ rest) =
      piece ++ replaceFrom (o :: tail) new 0 rest := by
  induction piece with
  | nil => rfl
  | cons c piece ih =>
    have later : ¬ (o :: tail) <:+: piece := fun inside => free (List.infix_cons inside)
    have unlike := not_prefix_of_piece once free follows
    rw [List.cons_append] at unlike ⊢
    rw [replaceFrom_cons unlike, ih later, List.cons_append]

private theorem replaceFrom_intercalate {o : Char} {tail : List Char} (once : o ∉ tail)
    {pieces : List (List Char)} (some_piece : pieces ≠ [])
    (free : ∀ piece ∈ pieces, ¬ (o :: tail) <:+: piece) :
    replaceFrom (o :: tail) new 0 ((o :: tail).intercalate pieces) = new.intercalate pieces := by
  induction pieces with
  | nil => exact absurd rfl some_piece
  | cons piece others ih =>
    obtain ⟨free_piece, free_others⟩ := List.forall_mem_cons.mp free
    cases others with
    | nil =>
      have whole := replaceFrom_piece new once free_piece (.inl rfl)
      simpa [replaceFrom] using whole
    | cons other rest =>
      have first := replaceFrom_piece new once free_piece
        (.inr (List.prefix_append _ ((o :: tail).intercalate (other :: rest))))
      rw [List.intercalate_cons_cons, List.intercalate_cons_cons, List.append_assoc, first,
        replaceFrom_append (List.cons_ne_nil _ _), ih (List.cons_ne_nil _ _) free_others,
        List.append_assoc]

end Replace

/-- Of a text whose first character comes once in it, the occurrences never overlap, so replacing
them has one result. -/
theorem replaced_eq_iff {old new text result : String} {o : Char} {tail : List Char}
    (opening : old.toList = o :: tail) (once : o ∉ tail) :
    replaced old new text = result ↔
      Replaces old.toList new.toList text.toList result.toList := by
  rw [replaced, ← String.toList_inj, String.toList_ofList, opening]
  constructor
  · rintro same
    rw [← same]
    exact replaces_replaceFrom (List.cons_ne_nil _ _) _
  · rintro ⟨pieces, some_piece, free, split, joined⟩
    rw [split, joined]
    exact replaceFrom_intercalate once some_piece free

end TokenQuery.Text
