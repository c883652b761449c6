import TokenQuery.Pattern.Expr
import TokenQuery.Pattern.Flags

/-!
Escapes: what a backslash and the characters after it stand for.
-/

set_option autoImplicit false

namespace TokenQuery.Pattern

/-- The characters that have a meaning of their own somewhere in a pattern. -/
def isMeta (c : Char) : Bool :=
  ['\\', '.', '+', '*', '?', '(', ')', '|', '[', ']', Char.ofNat 0x7B, Char.ofNat 0x7D, '^', '$',
    '#', '&', '-', '~'].contains c

/-- The pattern that matches a text and nothing else: characters with a meaning are escaped. -/
def escape (text : List Char) : List Char :=
  text.flatMap fun c => if isMeta c then ['\\', c] else [c]

/-- What a single character or an escape stands for. `byte` marks a character written as two
hexadecimal digits. -/
inductive Atom where
  | literal (c : Char) (byte : Bool)
  | set (set : CharSet)
  | look (look : Look)
  deriving DecidableEq

/-- A set written byte by byte may hold ASCII only, since text is never split inside a character. -/
def ensureAscii (set : CharSet) : Except PatternError CharSet :=
  if set.isAscii then .ok set else .error .bytewise

def letterSet (flags : Flags) (letter : LetterClass) (negated : Bool) :
    Except PatternError CharSet :=
  if flags.unicode then .ok (letter.set.negatedIf negated)
  else ensureAscii (letter.asciiSet.negatedIf negated)

/-- A set closed under differences of case where the flags ask for it. -/
def foldedBy (flags : Flags) (set : CharSet) : CharSet :=
  if flags.caseless then (if flags.unicode then .folded set else .foldedAscii set) else set

def finishSet (flags : Flags) (negated : Bool) (set : CharSet) : Except PatternError CharSet :=
  let set := (foldedBy flags set).negatedIf negated
  if flags.unicode then .ok set else ensureAscii set

/-- The character with a code, when there is one: no surrogate, and not above U+10FFFF. -/
def charOfCode? (code : Nat) : Option Char :=
  if code.isValidChar then some (Char.ofNat code) else none

def hexLiteral (digits : List Char) (byte : Bool) : Except PatternError Atom :=
  if digits.isEmpty || digits.any (fun c => (Unicode.hexValue? c).isNone) then .error .hexadecimal
  else
    match charOfCode? (Unicode.hexNumber digits) with
    | none => .error .hexadecimal
    | some c => .ok (.literal c byte)

def takeDigits (flags : Flags) : Nat → List Char → Except PatternError (List Char × List Char)
  | 0, text => .ok ([], text)
  | count + 1, text =>
    match flags.skip text with
    | [] => .error .escapeUnfinished
    | c :: rest => do
      let (digits, behind) ← takeDigits flags count rest
      return (c :: digits, behind)

/-- Reads a hexadecimal escape behind its letter: digits in braces, or as many digits as the letter
asks for. -/
def readHex (flags : Flags) (count : Nat) (text : List Char) :
    Except PatternError (Atom × List Char) :=
  match flags.skip text with
  | [] => .error .escapeUnfinished
  | c :: rest =>
    if c = Char.ofNat 0x7B then
      match flags.takeWhile (· != Char.ofNat 0x7D) false rest with
      | (_, []) => .error .escapeUnfinished
      | (digits, _ :: behind) => do return (← hexLiteral digits false, behind)
    else do
      let (digits, behind) ← takeDigits flags count (c :: rest)
      return (← hexLiteral digits (count == 2), behind)

/-- Splits a text before the first occurrence of `mark`, when there is one. -/
def splitBefore? (mark : List Char) : List Char → Option (List Char × List Char)
  | [] => none
  | c :: rest =>
    if mark.isPrefixOf (c :: rest) then some ([], (c :: rest).drop mark.length)
    else (splitBefore? mark rest).map fun (before, behind) => (c :: before, behind)

/-- The property test that a name in braces describes: a kind and a value around an inequality, a
colon or an equality sign, or else a name alone. -/
def propertyName (name : List Char) : PropertyName :=
  match splitBefore? ['!', '='] name <|> splitBefore? [':'] name <|> splitBefore? ['='] name with
  | some (kind, value) => .valued kind value
  | none => .alone name

/-- Reads a property test behind its letter: one character, or a name in braces. -/
def readProperty (flags : Flags) (negated : Bool) (text : List Char) :
    Except PatternError (Atom × List Char) :=
  match flags.skip text with
  | [] => .error .escapeUnfinished
  | c :: rest => do
    let (name, behind) ←
      if c = Char.ofNat 0x7B then
        match flags.takeWhile (· != Char.ofNat 0x7D) false rest with
        | (_, []) => .error .escapeUnfinished
        | (name, _ :: behind) => .ok (propertyName name, behind)
      else if c = '\\' then .error .property
      else .ok (.alone [c], rest)
    if flags.unicode then
      match name.set? with
      | none => .error .property
      | some set => return (.set ((foldedBy flags set).negatedIf negated), behind)
    else .error .bytewise

/-- Letters and hyphens make up the names of word boundaries. -/
def isBoundaryChar (c : Char) : Bool := c.isAlpha || c == '-'

/-- Reads what follows an escaped `b`: the name of a kind of word boundary in braces, if the first
character in the braces could begin one. -/
def readBoundary (flags : Flags) (text : List Char) :
    Except PatternError (WordTest × List Char) :=
  match text with
  | [] => .ok (.boundary, [])
  | brace :: inner =>
    if brace = Char.ofNat 0x7B then
      match flags.skip inner with
      | [] => .error .wordBoundary
      | c :: rest =>
        if isBoundaryChar c then
          match flags.takeWhile isBoundaryChar false (c :: rest) with
          | (_, []) => .error .wordBoundary
          | (name, stop :: behind) =>
            if stop = Char.ofNat 0x7D then
              match String.ofList name with
              | "start" => .ok (.start, behind)
              | "end" => .ok (.stop, behind)
              | "start-half" => .ok (.startHalf, behind)
              | "end-half" => .ok (.stopHalf, behind)
              | _ => .error .wordBoundary
            else .error .wordBoundary
        else .ok (.boundary, brace :: inner)
    else .ok (.boundary, brace :: inner)

/-- Every ASCII character but letters, digits and angle brackets stands for itself when escaped. -/
def isEscapable (c : Char) : Bool :=
  c.toNat < 0x80 && !c.isAlphanum && c != '<' && c != '>'

def readEscape (flags : Flags) (text : List Char) : Except PatternError (Atom × List Char) :=
  let word (test : WordTest) (behind : List Char) : Except PatternError (Atom × List Char) :=
    .ok (.look (.word flags.unicode test), behind)
  let letter (letter : LetterClass) (negated : Bool) (behind : List Char) := do
    return (Atom.set (← letterSet flags letter negated), behind)
  match text with
  | [] => .error .escapeUnfinished
  | c :: rest =>
    if c.isDigit then .error .backreference
    else if isEscapable c then .ok (.literal c false, rest)
    else
      match c with
      | 'x' => readHex flags 2 rest
      | 'u' => readHex flags 4 rest
      | 'U' => readHex flags 8 rest
      | 'p' => readProperty flags false rest
      | 'P' => readProperty flags true rest
      | 'd' => letter .digit false rest
      | 'D' => letter .digit true rest
      | 's' => letter .space false rest
      | 'S' => letter .space true rest
      | 'w' => letter .word false rest
      | 'W' => letter .word true rest
      | 'a' => .ok (.literal (Char.ofNat 0x07) false, rest)
      | 'f' => .ok (.literal (Char.ofNat 0x0C) false, rest)
      | 't' => .ok (.literal '\t' false, rest)
      | 'n' => .ok (.literal '\n' false, rest)
      | 'r' => .ok (.literal '\r' false, rest)
      | 'v' => .ok (.literal (Char.ofNat 0x0B) false, rest)
      | 'A' => .ok (.look .textStart, rest)
      | 'z' => .ok (.look .textEnd, rest)
      | 'b' => do
        let (test, behind) ← readBoundary flags rest
        word test behind
      | 'B' => word .noBoundary rest
      | '<' => word .start rest
      | '>' => word .stop rest
      | _ => .error .escapeUnknown

end TokenQuery.Pattern
