import TokenQuery.Settings.Load

/-!
The text that a setting takes from the value of a variable. Main statements: a text without digits
that is no word for a truth value or a number is taken as it is written (`taken_of_no_digit`), and
so is a whole number in its shortest form (`taken_toString`).
-/

set_option autoImplicit false

namespace TokenQuery

namespace Decimal

variable {text digits : List Char} {low high n : Int}

private theorem takeSign_of_digits (numeric : ∀ c ∈ digits, c.isDigit = true) :
    takeSign digits = (false, digits) := by
  unfold takeSign
  split
  · cases numeric '-' List.mem_cons_self
  · cases numeric '+' List.mem_cons_self
  · rfl

private theorem takeSign_toString (n : Int) :
    takeSign (toString n).toList = (decide (n < 0), Nat.toDigits 10 n.natAbs) := by
  cases n with
  | ofNat m =>
    have written : (toString (Int.ofNat m)).toList = Nat.toDigits 10 m := Nat.toList_repr
    have sign : ¬ Int.ofNat m < 0 := Int.not_lt.mpr (Int.natCast_nonneg m)
    rw [written, decide_eq_false sign]
    exact takeSign_of_digits fun c => Nat.isDigit_of_mem_toDigits (by decide) (by decide)
  | negSucc m =>
    have written : (toString (Int.negSucc m)).toList = '-' :: Nat.toDigits 10 (m + 1) := by
      rw [← Nat.toList_repr]
      exact String.toList_append
    rw [written, decide_eq_true (Int.negSucc_lt_zero m)]
    rfl

private theorem readInt?_toString (above : low ≤ n) (below : n ≤ high) :
    readInt? low high (toString n).toList = some n := by
  have numeric : (Nat.toDigits 10 n.natAbs).any (!·.isDigit) = false := by
    simp only [List.any_eq_false, Bool.not_eq_true', Bool.not_eq_false]
    exact fun c => Nat.isDigit_of_mem_toDigits (by decide) (by decide)
  have value : ofDigits (Nat.toDigits 10 n.natAbs) = n.natAbs :=
    Nat.ofDigitChars_toDigits (by decide) (by decide)
  have signed : (if decide (n < 0) = true then -(n.natAbs : Int) else n.natAbs) = n := by
    by_cases negative : n < 0
    · simp only [negative, decide_true, if_true]; omega
    · simp only [negative, decide_false, Bool.false_eq_true, if_false]; omega
  simp only [readInt?, takeSign_toString, List.isEmpty_eq_false_iff.mpr Nat.toDigits_ne_nil,
    numeric, Bool.or_self, Bool.false_eq_true, if_false, value, signed, above, below,
    and_self, if_true]

private theorem takeSign_snd_subset (text : List Char) : (takeSign text).2 ⊆ text := by
  unfold takeSign
  split
  · exact List.subset_cons_self _ _
  · exact List.subset_cons_self _ _
  · exact List.Subset.refl _

private theorem any_isDigit_of_subset (digitless : text.any Char.isDigit = false)
    (part : digits ⊆ text) :
    digits.any Char.isDigit = false :=
  List.any_eq_false.mpr fun c member => List.any_eq_false.mp digitless c (part member)

private theorem readInt?_of_no_digit (digitless : text.any Char.isDigit = false) :
    readInt? low high text = none := by
  have digitless := any_isDigit_of_subset digitless (takeSign_snd_subset text)
  unfold readInt?
  cases unsigned : (takeSign text).2 with
  | nil => simp [unsigned]
  | cons c rest =>
    rw [unsigned, List.any_cons, Bool.or_eq_false_iff] at digitless
    simp [unsigned, digitless.1]

private theorem takeWhile_isDigit_of_no_digit (digitless : text.any Char.isDigit = false) :
    text.takeWhile Char.isDigit = [] := by
  cases text with
  | nil => rfl
  | cons c rest =>
    rw [List.any_cons, Bool.or_eq_false_iff] at digitless
    simp [digitless.1]

private theorem readFloat?_of_no_digit (digitless : text.any Char.isDigit = false)
    (plain : String.ofList ((takeSign text).2.map Char.toLower) ∉ ["inf", "infinity", "nan"]) :
    readFloat? text = none := by
  have digitless := any_isDigit_of_subset digitless (takeSign_snd_subset text)
  unfold readFloat?
  simp only
  split
  · rename_i same
    simp [same] at plain
  · rename_i same
    simp [same] at plain
  · rename_i same
    simp [same] at plain
  · have fraction := any_isDigit_of_subset digitless (List.dropWhile_suffix Char.isDigit).subset
    rw [takeWhile_isDigit_of_no_digit digitless]
    split
    · rename_i rest point
      rw [point, List.any_cons, Bool.or_eq_false_iff] at fraction
      simp [takeWhile_isDigit_of_no_digit fraction.2]
    · simp

end Decimal

namespace Environment

/-- The text that a setting takes from the value of a variable: a truth value in lower case, a
number as it is written anew, and anything else as it is. -/
def taken (value : String) : String :=
  if lowerAscii value = "true" ∨ lowerAscii value = "false" then lowerAscii value
  else
    match Decimal.readInt? Decimal.leastSigned Decimal.greatestSigned value.toList with
    | some n => toString n
    | none => ((Decimal.readFloat? value.toList).map Decimal.textOf).getD value

/-- The value is a word for a truth value or, without its sign, for a number that is not finite. -/
def isWord (value : String) : Bool :=
  ["true", "false"].contains (lowerAscii value) ||
    ["inf", "infinity", "nan"].contains
      (String.ofList ((Decimal.takeSign value.toList).2.map Char.toLower))

variable {value : String}

theorem text?_value (name value : String) (single : listPaths.contains name = false) :
    Reading.lenient.text? (Environment.value name value) = some (taken value) := by
  rw [Environment.value, guessed?, taken, single]
  split
  · rename_i same
    rw [same]
    rfl
  · rename_i same
    rw [same]
    rfl
  · rename_i notTrue notFalse
    rw [if_neg (not_or.mpr ⟨notTrue, notFalse⟩)]
    cases Decimal.readInt? Decimal.leastSigned Decimal.greatestSigned value.toList with
    | some n => rfl
    | none =>
      cases Decimal.readFloat? value.toList with
      | some x => rfl
      | none => rfl

theorem ne_table_of_text? {data : Data} {text : String}
    (reads : Reading.lenient.text? data = some text) (fields : List (String × Data)) :
    data ≠ .table fields := by
  rintro rfl
  cases reads

private theorem toLower_of_isDigit {c : Char} (digit : c.isDigit = true) : c.toLower = c := by
  have top : c.toNat ≤ '9'.toNat := (Char.isDigit_iff_toNat.mp digit).2
  refine dif_neg fun ⟨above, _⟩ => ?_
  have above : 'A'.toNat ≤ c.toNat := UInt32.le_iff_toNat_le.mp above
  exact absurd (Nat.le_trans above top) (by decide)

private theorem no_digit_of_lowerAscii_eq {word : String} (same : lowerAscii value = word)
    (digitless : word.toList.any Char.isDigit = false) : value.toList.any Char.isDigit = false := by
  refine List.any_eq_false.mpr fun c member digit => ?_
  refine List.any_eq_false.mp digitless c ?_ digit
  rw [← same, lowerAscii, String.toList_ofList, ← toLower_of_isDigit digit]
  exact List.mem_map_of_mem member

/-- A text without digits is taken as it is written, unless it is a word. -/
theorem taken_of_no_digit (digitless : value.toList.any Char.isDigit = false)
    (plain : isWord value = false) : taken value = value := by
  simp only [isWord, Bool.or_eq_false_iff, List.contains_eq_mem, decide_eq_false_iff_not,
    List.mem_cons, List.not_mem_nil, or_false] at plain
  obtain ⟨noTruth, noNumber⟩ := plain
  rw [taken, if_neg noTruth, Decimal.readInt?_of_no_digit digitless,
    Decimal.readFloat?_of_no_digit digitless (by simpa using noNumber)]
  rfl

/-- A whole number in its shortest form is taken as it is written. -/
theorem taken_toString {n : Int} (above : Decimal.leastSigned ≤ n)
    (below : n ≤ Decimal.greatestSigned) : taken (toString n) = toString n := by
  have reads := Decimal.readInt?_toString above below
  have noTruth : ¬ (lowerAscii (toString n) = "true" ∨ lowerAscii (toString n) = "false") := by
    rintro (same | same)
    all_goals
      rw [Decimal.readInt?_of_no_digit (no_digit_of_lowerAscii_eq same rfl)] at reads
      cases reads
  rw [taken, if_neg noTruth, reads]

end Environment

end TokenQuery
