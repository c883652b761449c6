import Mathlib.Data.List.TakeWhile
import TokenQuery.Shorthand

/-!
What a shorthand reads as. Main statement: a text reads as a name and arguments exactly when the
name is not empty, no part has a colon, and the parts joined by colons are what is left of the text
without the blanks around it and the brackets (`split_eq_ok_iff`).
-/

set_option autoImplicit false

namespace TokenQuery

namespace Text

variable {text body : List Char}

/-- The body is the text without the blanks at its ends. -/
structure Trims (text body : List Char) : Prop where
  between : ∃ before after, text = before ++ body ++ after ∧
    (∀ c ∈ before, isBlank c = true) ∧ ∀ c ∈ after, isBlank c = true
  begins : ∀ c ∈ body.head?, isBlank c = false
  ends : ∀ c ∈ body.getLast?, isBlank c = false

private theorem dropWhile_isBlank_of_begins (begins : ∀ c ∈ body.head?, isBlank c = false) :
    body.dropWhile isBlank = body := by
  cases body with
  | nil => rfl
  | cons c rest => rw [List.dropWhile_cons_of_neg (by simp [begins c rfl])]

private theorem begins_dropWhile_isBlank (text : List Char) :
    ∀ c ∈ (text.dropWhile isBlank).head?, isBlank c = false := by
  intro c first
  have kept := List.head?_dropWhile_not isBlank text
  rw [Option.mem_def.mp first] at kept
  exact kept

theorem trim_eq_of_trims (trims : Trims text body) : trim text = body := by
  obtain ⟨⟨before, after, rfl, blankBefore, blankAfter⟩, begins, ends⟩ := trims
  have endsReversed : ∀ c ∈ body.reverse.head?, isBlank c = false := by
    rw [List.head?_reverse]
    exact ends
  have back : (body ++ after).reverse.dropWhile isBlank = body.reverse := by
    rw [List.reverse_append, List.dropWhile_append_of_pos, dropWhile_isBlank_of_begins endsReversed]
    exact fun c member => blankAfter c (List.mem_reverse.mp member)
  rw [trim, List.append_assoc, List.dropWhile_append_of_pos blankBefore]
  cases body with
  | nil =>
    have gone : ([] ++ after).dropWhile isBlank = [] := List.dropWhile_eq_nil_iff.mpr blankAfter
    rw [gone]
    rfl
  | cons c rest =>
    have stays : (c :: rest ++ after).dropWhile isBlank = c :: rest ++ after :=
      dropWhile_isBlank_of_begins begins
    rw [stays, back, List.reverse_reverse]

theorem trims_trim (text : List Char) : Trims text (trim text) := by
  let kept := text.dropWhile isBlank
  have front : text = text.takeWhile isBlank ++ kept := List.takeWhile_append_dropWhile.symm
  have back : kept = trim text ++ (kept.reverse.takeWhile isBlank).reverse := by
    rw [trim, ← List.reverse_append, List.takeWhile_append_dropWhile, List.reverse_reverse]
  constructor
  · refine ⟨text.takeWhile isBlank, (kept.reverse.takeWhile isBlank).reverse, ?_, ?_, ?_⟩
    · rw [List.append_assoc, ← back, ← front]
    · exact fun c member => List.mem_takeWhile_imp member
    · exact fun c member => List.mem_takeWhile_imp (List.mem_reverse.mp member)
  · intro c first
    -- What the second trimming leaves begins as the text does after the first.
    refine begins_dropWhile_isBlank text c ?_
    have begun : kept.head? = some c := by
      rw [back, List.head?_append, Option.mem_def.mp first, Option.some_or]
    exact begun
  · intro c last
    rw [trim, List.getLast?_reverse] at last
    exact begins_dropWhile_isBlank _ c last

private theorem trim_eq_iff : trim text = body ↔ Trims text body := by
  constructor
  · rintro rfl
    exact trims_trim text
  · exact trim_eq_of_trims

end Text

section Split

variable {α : Type} [BEq α] [LawfulBEq α] {mark : α} {text : List α} {pieces : List (List α)}

private theorem not_mem_of_mem_splitOn {piece : List α} (member : piece ∈ text.splitOn mark) :
    mark ∉ piece := by
  induction text generalizing piece with
  | nil =>
    rw [List.splitOn_nil, List.mem_singleton] at member
    rw [member]
    exact List.not_mem_nil
  | cons a rest ih =>
    rw [List.splitOn_cons_eq_if_modifyHead] at member
    split at member
    · rcases List.mem_cons.mp member with rfl | later
      · exact List.not_mem_nil
      · exact ih later
    · rename_i other
      obtain ⟨first, others, split⟩ := List.exists_cons_of_ne_nil (List.splitOn_ne_nil mark rest)
      rw [split] at member ih
      rcases List.mem_cons.mp member with rfl | later
      · rw [List.mem_cons, not_or]
        refine ⟨?_, ih (.head _)⟩
        rintro rfl
        simp at other
      · exact ih (.tail _ later)

theorem splitOn_eq_iff :
    text.splitOn mark = pieces ↔
      pieces ≠ [] ∧ (∀ piece ∈ pieces, mark ∉ piece) ∧ [mark].intercalate pieces = text := by
  constructor
  · rintro rfl
    exact ⟨List.splitOn_ne_nil _ _, fun _ => not_mem_of_mem_splitOn, List.intercalate_splitOn mark⟩
  · rintro ⟨some_piece, free, rfl⟩
    exact List.splitOn_intercalate mark free some_piece

end Split

namespace Shorthand

variable {text body inner name : List Char} {args : List (List Char)}

/-- What the pair of brackets around a text encloses, or the text itself when it neither begins nor
ends with a bracket. -/
inductive Encloses : List Char → List Char → Prop
  | brackets (inner : List Char) : Encloses ('[' :: inner ++ [']']) inner
  | bare {inner : List Char} : inner.head? ≠ some '[' → inner.getLast? ≠ some ']' →
      Encloses inner inner

theorem unbracketed_eq_some_iff : unbracketed body = some inner ↔ Encloses body inner := by
  unfold unbracketed
  constructor
  · intro enclosed
    split at enclosed
    · rename_i opened
      split at enclosed
      · rename_i closed
        obtain ⟨rest, rfl⟩ : ∃ rest, body = '[' :: rest := by
          cases body with
          | nil => cases opened
          | cons c rest => exact ⟨rest, by rw [Option.some.inj opened]⟩
        have some_rest : rest ≠ [] := by
          rintro rfl
          cases closed
        rw [List.getLast?_cons_of_ne_nil some_rest] at closed
        obtain ⟨inside, rfl⟩ := List.getLast?_eq_some_iff.mp closed
        rw [List.tail_cons, List.dropLast_concat] at enclosed
        obtain rfl := Option.some.inj enclosed
        exact .brackets inside
      · cases enclosed
    · rename_i opened
      split at enclosed
      · cases enclosed
      · rename_i closed
        obtain rfl := Option.some.inj enclosed
        exact .bare opened closed
  · intro encloses
    cases encloses with
    | brackets =>
      have opened : ('[' :: inner ++ [']']).head? = some '[' := rfl
      have closed : ('[' :: inner ++ [']']).getLast? = some ']' := List.getLast?_concat
      rw [if_pos opened, if_pos closed, List.cons_append, List.tail_cons, List.dropLast_concat]
    | bare opened closed => rw [if_neg opened, if_neg closed]

theorem read_eq_ok_iff :
    read body = .ok (name, args) ↔
      name ≠ [] ∧ (∀ part ∈ name :: args, ':' ∉ part) ∧
        Encloses body ([':'].intercalate (name :: args)) := by
  unfold read
  constructor
  · intro reads
    split at reads
    · cases reads
    · rename_i inner enclosed
      split at reads
      · cases reads
      · cases reads
      · rename_i first others named split
        obtain ⟨rfl, rfl⟩ := Prod.mk.inj (Except.ok.inj reads)
        obtain ⟨_, free, joined⟩ := splitOn_eq_iff.mp split
        refine ⟨named, free, ?_⟩
        rw [joined]
        exact unbracketed_eq_some_iff.mp enclosed
  · rintro ⟨named, free, encloses⟩
    have split := splitOn_eq_iff.mpr ⟨List.cons_ne_nil name args, free, rfl⟩
    obtain ⟨c, rest, rfl⟩ := List.exists_cons_of_ne_nil named
    rw [unbracketed_eq_some_iff.mpr encloses]
    simp only [split]

/-- A text reads as a name and arguments exactly when the name is not empty, no part has a colon,
and the parts joined by colons are what the trimmed text encloses. -/
theorem split_eq_ok_iff {text name : String} {args : List String} :
    split text = .ok (name, args) ↔
      name ≠ "" ∧ (∀ part ∈ name :: args, ':' ∉ part.toList) ∧
        ∃ body, Text.Trims text.toList body ∧
          Encloses body (Text.joined ':' (name :: args)).toList := by
  have parts : (Text.joined ':' (name :: args)).toList =
      [':'].intercalate (name.toList :: args.map String.toList) := by
    rw [Text.joined, String.toList_ofList, List.map_cons]
  have named : name ≠ "" ↔ name.toList ≠ [] := by simp
  have free : (∀ part ∈ name :: args, ':' ∉ part.toList) ↔
      ∀ part ∈ name.toList :: args.map String.toList, ':' ∉ part := by
    rw [List.forall_mem_cons, List.forall_mem_cons, List.forall_mem_map]
  have reads : split text = .ok (name, args) ↔
      read (Text.trim text.toList) = .ok (name.toList, args.map String.toList) := by
    unfold split
    cases read (Text.trim text.toList) with
    | error cause => simp only [reduceCtorEq]
    | ok parts =>
      obtain ⟨first, others⟩ := parts
      simp only [Except.ok.injEq, Prod.mk.injEq]
      constructor
      · rintro ⟨rfl, rfl⟩
        rw [String.toList_ofList, List.map_map, String.toList_comp_ofList, List.map_id]
        exact ⟨rfl, rfl⟩
      · rintro ⟨rfl, rfl⟩
        rw [String.ofList_toList, List.map_map, String.ofList_comp_toList, List.map_id]
        exact ⟨rfl, rfl⟩
  rw [reads, read_eq_ok_iff, named, free, parts]
  simp only [← Text.trim_eq_iff, exists_eq_left']

end Shorthand

end TokenQuery
