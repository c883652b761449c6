import Mathlib.Logic.Basic
import TokenQuery.Proofs.Token.Shorthand

/-!
The grammar of a shorthand, with what it refuses. Main statement: a trimmed text with a bracket at
one end only is unbalanced; else it has no name exactly when what the brackets enclose is empty or
begins with a colon; and else it splits into the one list of parts without colons that, joined by
colons, is what they enclose (`split_accepts_grammar`).
-/

set_option autoImplicit false

namespace TokenQuery

namespace Text

variable {mark : Char} {text : String} {pieces : List String}

theorem parts_eq_iff :
    parts mark text = pieces ↔
      pieces ≠ [] ∧ (∀ piece ∈ pieces, mark ∉ piece.toList) ∧ joined mark pieces = text := by
  have spelled : parts mark text = pieces ↔
      text.toList.splitOn mark = pieces.map String.toList := by
    constructor
    · rintro rfl
      rw [parts, List.map_map, String.toList_comp_ofList, List.map_id]
    · intro split
      rw [parts, split, List.map_map, String.ofList_comp_toList, List.map_id]
  rw [spelled, splitOn_eq_iff, ne_eq, List.map_eq_nil_iff, List.forall_mem_map, joined,
    ← String.toList_inj, String.toList_ofList]

end Text

namespace Shorthand

variable {text : String} {body inner name : List Char} {args : List (List Char)}
  {cause : ShorthandError}

/-- Just one end of the text has its bracket. -/
def OneSided (body : List Char) : Prop := Xor (body.head? = some '[') (body.getLast? = some ']')

instance (body : List Char) : Decidable (OneSided body) := inferInstanceAs (Decidable (Xor _ _))

/-- No name stands in front: the text is empty or begins with a colon. -/
def Nameless (inner : List Char) : Prop := inner = [] ∨ inner.head? = some ':'

instance (inner : List Char) : Decidable (Nameless inner) := inferInstanceAs (Decidable (_ ∨ _))

private theorem unbracketed_eq_none_iff : unbracketed body = none ↔ OneSided body := by
  unfold unbracketed OneSided Xor
  split
  · split <;> simp_all
  · split <;> simp_all

private theorem exists_encloses_iff : (∃ inner, Encloses body inner) ↔ ¬ OneSided body := by
  rw [← unbracketed_eq_none_iff, ← ne_eq, Option.ne_none_iff_exists']
  simp only [unbracketed_eq_some_iff]

private theorem exists_closed (closed : ('[' :: body).getLast? = some ']') :
    ∃ inner, body = inner ++ [']'] ∧
      (String.ofList body).utf8ByteSize = (String.ofList inner).utf8ByteSize + 1 := by
  have some_body : body ≠ [] := by
    rintro rfl
    cases closed
  rw [List.getLast?_cons_of_ne_nil some_body] at closed
  obtain ⟨inner, rfl⟩ := List.getLast?_eq_some_iff.mp closed
  refine ⟨inner, rfl, ?_⟩
  rw [String.ofList_append, String.utf8ByteSize_append]
  rfl

private theorem head?_splitOn_eq_some_nil_iff :
    (inner.splitOn ':').head? = some [] ↔ Nameless inner := by
  cases inner with
  | nil => simp [Nameless, List.splitOn_nil]
  | cons c rest =>
    obtain ⟨first, others, split⟩ := List.exists_cons_of_ne_nil (List.splitOn_ne_nil ':' rest)
    rw [List.splitOn_cons_eq_if_modifyHead, split]
    by_cases colon : c = ':'
    · simp [Nameless, colon]
    · simp [Nameless, colon]

private theorem read_cases (body : List Char) :
    (OneSided body ∧ read body = .error .unbalancedBrackets) ∨
      ∃ inner, Encloses body inner ∧
        ((Nameless inner ∧ read body = .error .missingName) ∨
          (¬ Nameless inner ∧
            ∃ name args, read body = .ok (name, args) ∧ inner.splitOn ':' = name :: args)) := by
  unfold read
  cases enclosed : unbracketed body with
  | none => exact .inl ⟨unbracketed_eq_none_iff.mp enclosed, rfl⟩
  | some inner =>
    refine .inr ⟨inner, unbracketed_eq_some_iff.mp enclosed, ?_⟩
    rw [← head?_splitOn_eq_some_nil_iff]
    obtain ⟨name, args, split⟩ := List.exists_cons_of_ne_nil (List.splitOn_ne_nil ':' inner)
    cases name with
    | nil => simp [split]
    | cons c name => exact .inr ⟨by simp [split], c :: name, args, by simp [split], split⟩

private theorem split_of_read_error (refused : read (Text.trim text.toList) = .error cause) :
    split text = .error (.parse cause text) := by
  rw [split, refused]

private theorem split_of_read_ok (reads : read (Text.trim text.toList) = .ok (name, args)) :
    split text = .ok (String.ofList name, args.map String.ofList) := by
  rw [split, reads]

/-- A text, trimmed of the blanks at its ends, is unbalanced when just one end has its bracket. Else
nothing but the pair of brackets is dropped, and what is left has no name when it is empty or begins
with a colon. Else it splits into the name and the arguments, which are the one list of parts
without colons that it is when they are joined. Both errors carry the text as it was given. Behind
an opening bracket a closing one at the end has a place of its own, one byte long. -/
theorem split_accepts_grammar (text : String) :
    ∃ body, Text.Trims text.toList body ∧
      ((∃ input, split text = .error (.parse .unbalancedBrackets input)) ↔ OneSided body) ∧
      (¬ OneSided body → ∃ inner, Encloses body inner ∧
        ((∃ input, split text = .error (.parse .missingName input)) ↔ Nameless inner) ∧
        (¬ Nameless inner → ∃ name args, split text = .ok (name, args) ∧
          ∀ parts : List String, parts = name :: args ↔
            parts ≠ [] ∧ (∀ part ∈ parts, ':' ∉ part.toList) ∧
              Text.joined ':' parts = String.ofList inner)) ∧
      (∀ error, split text = .error error →
        error = .parse .unbalancedBrackets text ∨ error = .parse .missingName text) ∧
      (∀ rest, body = '[' :: rest → body.getLast? = some ']' →
        ∃ inner, rest = inner ++ [']'] ∧
          (String.ofList rest).utf8ByteSize = (String.ofList inner).utf8ByteSize + 1) ∧
      ShorthandError.unbalancedBrackets.message = "unbalanced brackets" ∧
      ShorthandError.missingName.message = "missing token name" := by
  refine ⟨Text.trim text.toList, Text.trims_trim _, ?_⟩
  have slice : ∀ rest, Text.trim text.toList = '[' :: rest →
      (Text.trim text.toList).getLast? = some ']' →
      ∃ inner, rest = inner ++ [']'] ∧
        (String.ofList rest).utf8ByteSize = (String.ofList inner).utf8ByteSize + 1 := by
    intro rest opened closed
    rw [opened] at closed
    exact exists_closed closed
  -- The three cases exclude each other, so each of them settles both equivalences.
  rcases read_cases (Text.trim text.toList) with
    ⟨oneSided, refused⟩ |
    ⟨inner, encloses, ⟨nameless, refused⟩ | ⟨named, name, args, reads, pieces⟩⟩
  · have outcome := split_of_read_error refused
    refine ⟨?_, fun balanced => absurd oneSided balanced, ?_, slice, rfl, rfl⟩
    · simp [outcome, oneSided]
    · simp [outcome]
  · have outcome := split_of_read_error refused
    have balanced := exists_encloses_iff.mp ⟨inner, encloses⟩
    refine ⟨?_, fun _ => ⟨inner, encloses, ?_, fun named => absurd nameless named⟩, ?_, slice, rfl,
      rfl⟩
    · simp [outcome, balanced]
    · simp [outcome, nameless]
    · simp [outcome]
  · have outcome := split_of_read_ok reads
    have balanced := exists_encloses_iff.mp ⟨inner, encloses⟩
    have parts : Text.parts ':' (String.ofList inner) =
        String.ofList name :: args.map String.ofList := by
      rw [Text.parts, String.toList_ofList, pieces, List.map_cons]
    refine ⟨?_, fun _ => ⟨inner, encloses, ?_, fun _ => ⟨_, _, outcome, ?_⟩⟩, ?_, slice, rfl, rfl⟩
    · simp [outcome, balanced]
    · simp [outcome, named]
    · intro others
      rw [← Text.parts_eq_iff, parts, eq_comm]
    · simp [outcome]

/-- The inner pair of brackets belongs to the name, and the blank to an argument. -/
theorem split_accepts_doubled_brackets :
    ¬ OneSided "[[A]: x::]".toList ∧ ¬ Nameless "[A]: x::".toList ∧
      split "\t[[A]: x::]\n" = .ok ("[A]", [" x", "", ""]) := by
  obtain ⟨body, trims, _, balanced, _⟩ := split_accepts_grammar "\t[[A]: x::]\n"
  obtain rfl : "[[A]: x::]".toList = body := Text.trim_eq_of_trims trims
  obtain ⟨inner, encloses, _, named⟩ := balanced (by decide)
  obtain rfl : "[A]: x::".toList = inner :=
    Option.some.inj (unbracketed_eq_some_iff.mpr encloses)
  obtain ⟨name, args, splits, only⟩ := named (by decide)
  have parts : ["[A]", " x", "", ""] = name :: args := (only _).mpr (by decide)
  obtain ⟨rfl, rfl⟩ := List.cons.inj parts
  exact ⟨by decide, by decide, splits⟩

end Shorthand

end TokenQuery
