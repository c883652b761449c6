import TokenQuery.Text.Segment

/-!
Sets of characters as ascending ranges of code points, written as text: hexadecimal bounds, a hyphen
between the two bounds of a range, a blank or a new line between ranges.
-/

set_option autoImplicit false

namespace TokenQuery.Unicode

/-- Ascending and disjoint ranges of code points, both bounds included. -/
structure Ranges where
  bounds : Array (Nat × Nat)

def hexValue? (c : Char) : Option Nat :=
  if '0' ≤ c ∧ c ≤ '9' then some (c.toNat - '0'.toNat)
  else if 'A' ≤ c ∧ c ≤ 'F' then some (c.toNat - 'A'.toNat + 10)
  else if 'a' ≤ c ∧ c ≤ 'f' then some (c.toNat - 'a'.toNat + 10)
  else none

def hexNumber (digits : List Char) : Nat :=
  digits.foldl (fun n c => 16 * n + (hexValue? c).getD 0) 0

namespace Ranges

private def ofWord (word : List Char) : Nat × Nat :=
  let (first, last) := word.span (· != '-')
  let lower := hexNumber first
  (lower, if last.isEmpty then lower else hexNumber last.tail)

def read (lines : List String) : Ranges :=
  ⟨(lines.flatMap fun line => (line.toList.splitOn ' ').map ofWord).toArray⟩

/-- Halves the candidates between `low` and `high` until the range that could hold the code is
found. -/
private def search (bounds : Array (Nat × Nat)) (code : Nat) : Nat → Nat → Nat → Bool
  | 0, _, _ => false
  | steps + 1, low, high =>
    if low < high then
      let middle := (low + high) / 2
      match bounds[middle]? with
      | none => false
      | some (lower, upper) =>
        if code < lower then search bounds code steps low middle
        else if upper < code then search bounds code steps (middle + 1) high
        else true
    else false

def contains (ranges : Ranges) (code : Nat) : Bool :=
  search ranges.bounds code (ranges.bounds.size + 1) 0 ranges.bounds.size

end Ranges

/-- A set of characters with the names that it goes by, in lower case and without separators. -/
structure Table where
  names : List String
  ranges : Ranges

end TokenQuery.Unicode
