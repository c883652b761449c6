import TokenQuery.Error
import TokenQuery.Text.Blank

/-!
The flags of a pattern, how a list of them is written, and the filler of verbose patterns.
-/

set_option autoImplicit false

namespace TokenQuery.Pattern

/-- A single flag. -/
inductive Flag where
  | caseless
  | multiLine
  | dotAll
  | swapGreed
  | unicode
  | crlf
  | verbose
  deriving DecidableEq

def Flag.ofLetter? : Char → Option Flag
  | 'i' => some .caseless
  | 'm' => some .multiLine
  | 's' => some .dotAll
  | 'U' => some .swapGreed
  | 'u' => some .unicode
  | 'R' => some .crlf
  | 'x' => some .verbose
  | _ => none

/-- The flags in force at a place of a pattern. Which of two matches is preferred does not change
whether there is one, so greed has no state. -/
structure Flags where
  caseless : Bool := false
  multiLine : Bool := false
  dotAll : Bool := false
  unicode : Bool := true
  crlf : Bool := false
  verbose : Bool := false
  deriving DecidableEq

namespace Flags

def set (flags : Flags) (on : Bool) : Flag → Flags
  | .caseless => { flags with caseless := on }
  | .multiLine => { flags with multiLine := on }
  | .dotAll => { flags with dotAll := on }
  | .swapGreed => flags
  | .unicode => { flags with unicode := on }
  | .crlf => { flags with crlf := on }
  | .verbose => { flags with verbose := on }

/-- Applies a list in which `none` stands for the sign that turns setting into clearing. -/
def apply (flags : Flags) (items : List (Option Flag)) : Flags :=
  (items.foldl (fun (flags, on) item =>
    match item with
    | none => (flags, false)
    | some flag => (flags.set on flag, on)) (flags, true)).1

end Flags

/-- Reads a list of flags up to a colon or a closing parenthesis. The result is the list, whether a
colon ended it, and the text behind. No flag may be repeated, and a minus sign needs a flag after
it. -/
def readFlags (items : List (Option Flag)) :
    List Char → Except PatternError (List (Option Flag) × Bool × List Char)
  | [] => .error .flagsUnclosed
  | c :: rest =>
    if c = ':' ∨ c = ')' then
      if items.getLast? = some none then .error .negationDangling
      else .ok (items, c = ':', rest)
    else if c = '-' then
      if items.contains none then .error .flagRepeated else readFlags (items ++ [none]) rest
    else
      match Flag.ofLetter? c with
      | none => .error .flag
      | some flag =>
        if items.contains (some flag) then .error .flagRepeated
        else readFlags (items ++ [some flag]) rest

/-- Drops blanks, and comments from a number sign to the end of its line; `comment` tells whether
the text begins inside a comment. -/
def dropFiller (comment : Bool) : List Char → List Char
  | [] => []
  | c :: rest =>
    if comment then dropFiller (c != '\n') rest
    else if Text.isBlank c then dropFiller false rest
    else if c = '#' then dropFiller true rest
    else c :: rest

namespace Flags

/-- Drops the filler in a verbose pattern, and nothing in others. -/
def skip (flags : Flags) (text : List Char) : List Char :=
  if flags.verbose then dropFiller false text else text

/-- Takes characters while they satisfy `wanted`, passing over filler in a verbose pattern. -/
def takeWhile (flags : Flags) (wanted : Char → Bool) (comment : Bool) :
    List Char → List Char × List Char
  | [] => ([], [])
  | c :: rest =>
    if comment then flags.takeWhile wanted (c != '\n') rest
    else if flags.verbose && Text.isBlank c then flags.takeWhile wanted false rest
    else if flags.verbose && c == '#' then flags.takeWhile wanted true rest
    else if wanted c then
      let (taken, behind) := flags.takeWhile wanted false rest
      (c :: taken, behind)
    else ([], c :: rest)

/-- The first character that is neither a blank nor the first number sign, or else the first
character; `passed` tells whether a number sign was passed. -/
def peekFrom (first : Option Char) (passed : Bool) : List Char → Option Char
  | [] => first
  | c :: rest =>
    if Text.isBlank c then peekFrom first passed rest
    else if c = '#' ∧ passed = false then peekFrom first true rest
    else some c

/-- The character that decides how a hyphen inside a class is read: the next one, in a verbose
pattern the next one behind blanks and one number sign. -/
def peek (flags : Flags) (text : List Char) : Option Char :=
  if flags.verbose then peekFrom text.head? false text else text.head?

end Flags

end TokenQuery.Pattern
