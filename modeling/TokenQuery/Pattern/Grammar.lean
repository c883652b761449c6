import TokenQuery.Pattern.Bracket

/-!
The grammar of patterns. `read` turns the text of a pattern into an expression, item by item, with
the open groups on a stack; `anchored` reads a pattern that is to match from the start of a text.
-/

set_option autoImplicit false

namespace TokenQuery.Pattern

/-- An item of a pattern: its expression, how deep it is nested, and whether it can be repeated,
which a list of flags cannot. -/
structure Item where
  expr : Expr
  depth : Nat := 0
  repeatable : Bool := true
  deriving DecidableEq

/-- The branches and items read since a group was opened, the last ones first. -/
structure Branches where
  finished : List Item := []
  items : List Item := []
  deriving DecidableEq

/-- What is set aside while a group is open: the flags before it, and what was read before it. -/
structure Frame where
  flags : Flags
  branches : Branches
  deriving DecidableEq

/-- The state of reading: the flags in force, the innermost group, the groups around it, and the
names of groups so far. -/
structure ReadState where
  flags : Flags := {}
  branches : Branches := {}
  frames : List Frame := []
  names : List (List Char) := []
  deriving DecidableEq

def depthLimit : Nat := 250

def countLimit : Nat := 4294967295

/-- Expressions may be this large with their counted repetitions written out. -/
def sizeLimit : Nat := 10 * 1024 * 1024

/-- Items in sequence; more than one of them count as one level of nesting. -/
def sequence (items : List Item) : Item :=
  match items with
  | [] => { expr := .empty }
  | [item] => item
  | items =>
    { expr := .seqs (items.reverse.map (·.expr))
      depth := 1 + (items.map (·.depth)).foldl max 0 }

namespace Branches

def push (branches : Branches) (item : Item) : Branches :=
  { branches with items := item :: branches.items }

def next (branches : Branches) : Branches :=
  { finished := sequence branches.items :: branches.finished, items := [] }

/-- The alternatives that the branches are; more than one of them count as one level of nesting. -/
def close (branches : Branches) : Item :=
  let last := sequence branches.items
  match branches.finished with
  | [] => last
  | finished =>
    let all := last :: finished
    { expr := .alts (all.reverse.map (·.expr))
      depth := 1 + (all.map (·.depth)).foldl max 0 }

end Branches

namespace ReadState

def push (state : ReadState) (item : Item) : ReadState :=
  { state with branches := state.branches.push item }

def openGroup (state : ReadState) (flags : Flags) : ReadState :=
  { state with flags, branches := {}, frames := ⟨state.flags, state.branches⟩ :: state.frames }

/-- The state behind the innermost group, whose flags end with it. -/
def closeGroup (state : ReadState) : Except PatternError ReadState :=
  match state.frames with
  | [] => .error .groupUnopened
  | frame :: frames =>
    let inner := state.branches.close
    let group : Item := { expr := inner.expr, depth := 1 + inner.depth }
    .ok { state with flags := frame.flags, branches := frame.branches.push group, frames }

/-- The state with the last item repeated, at least so often and then so many times more. -/
def repeatLast (state : ReadState) (least : Nat) (further : Option Nat) :
    Except PatternError ReadState :=
  match state.branches.items with
  | [] => .error .nothingToRepeat
  | item :: items =>
    if item.repeatable then
      let repeated : Item := { expr := .repeated item.expr least further, depth := 1 + item.depth }
      .ok { state with branches := { state.branches with items := repeated :: items } }
    else .error .nothingToRepeat

end ReadState

def charItem (flags : Flags) (c : Char) (byte : Bool) : Except PatternError Item :=
  if flags.unicode then .ok { expr := .chars (foldedBy flags (.single c)) }
  else if byte && 0x80 ≤ c.toNat then .error .bytewise
  else if flags.caseless && c.isAlpha then .ok { expr := .chars (.foldedAscii (.single c)) }
  else .ok { expr := .chars (.single c) }

def Atom.item (flags : Flags) : Atom → Except PatternError Item
  | .literal c byte => charItem flags c byte
  | .set members => .ok { expr := .chars members }
  | .look assertion => .ok { expr := .look assertion }

/-- A dot is any character but a line feed, or any character at all; with line ends of two
characters it is no carriage return either. -/
def dotItem (flags : Flags) : Except PatternError Item :=
  if !flags.unicode then .error .bytewise
  else if flags.dotAll then .ok { expr := .chars .everything }
  else if flags.crlf then .ok { expr := .chars (.compl (.union (.single '\n') (.single '\r'))) }
  else .ok { expr := .chars (.compl (.single '\n')) }

def startLook (flags : Flags) : Look :=
  if flags.multiLine then (if flags.crlf then .crlfLineStart else .lineStart) else .textStart

def endLook (flags : Flags) : Look :=
  if flags.multiLine then (if flags.crlf then .crlfLineEnd else .lineEnd) else .textEnd

/-- The first character of a group's name is a letter or an underscore; later ones may also be
numbers, dots and brackets. -/
def validName : List Char → Bool
  | [] => false
  | c :: rest =>
    (c == '_' || Unicode.isAlphabetic c) &&
      rest.all fun d =>
        ['_', '.', '[', ']'].contains d || Unicode.isAlphabetic d || Unicode.isNumeric d

/-- Opens a named group behind the angle bracket in front of its name. -/
def openNamed (state : ReadState) (text : List Char) :
    Except PatternError (ReadState × List Char) :=
  let name := text.takeWhile (· != '>')
  match text.dropWhile (· != '>') with
  | [] => .error .groupName
  | _ :: behind =>
    if !validName name then .error .groupName
    else if state.names.contains name then .error .groupNameRepeated
    else .ok ({ state.openGroup state.flags with names := name :: state.names }, behind)

/-- Reads what follows an opening parenthesis: the beginning of a group, or a list of flags for the
rest of the group around it. -/
def openParenthesis (state : ReadState) (text : List Char) :
    Except PatternError (ReadState × List Char) :=
  match state.flags.skip text with
  | '?' :: '=' :: _ | '?' :: '!' :: _ | '?' :: '<' :: '=' :: _ | '?' :: '<' :: '!' :: _ =>
    .error .lookaround
  | '?' :: 'P' :: '<' :: rest | '?' :: '<' :: rest => openNamed state rest
  | '?' :: rest => do
    let (items, grouped, behind) ← readFlags [] rest
    let flags := state.flags.apply items
    if grouped then return (state.openGroup flags, behind)
    else if items.isEmpty then .error .nothingToRepeat
    else
      let directive : Item := { expr := .empty, repeatable := false }
      return ({ state.push directive with flags }, behind)
  | text => .ok (state.openGroup state.flags, text)

/-- Drops the question mark that makes a repetition prefer few rounds. -/
def dropLazy : List Char → List Char
  | '?' :: rest => rest
  | text => text

def readCount (flags : Flags) (text : List Char) : Except PatternError (Nat × List Char) :=
  let (digits, behind) := flags.takeWhile Char.isDigit false (text.dropWhile Text.isBlank)
  if digits.isEmpty then .error .countEmpty
  else
    let count := digits.foldl (fun n c => 10 * n + (c.toNat - '0'.toNat)) 0
    if count ≤ countLimit then .ok (count, flags.skip (behind.dropWhile Text.isBlank))
    else .error .countTooLarge

def closeCount (state : ReadState) (least : Nat) (most : Option Nat) (text : List Char) :
    Except PatternError (ReadState × List Char) :=
  match text with
  | c :: rest =>
    if c = Char.ofNat 0x7D then
      if most.any (· < least) then .error .countReversed
      else do
        let repeated ← state.repeatLast least (most.map (· - least))
        return (repeated, dropLazy (state.flags.skip rest))
    else .error .countUnclosed
  | [] => .error .countUnclosed

/-- Reads a counted repetition behind its opening brace: a number, a number and a comma, or two
numbers around a comma. -/
def readRepetition (state : ReadState) (text : List Char) :
    Except PatternError (ReadState × List Char) := do
  let flags := state.flags
  let (least, behind) ← readCount flags (flags.skip text)
  match behind with
  | ',' :: rest =>
    let rest := flags.skip rest
    if rest.head? = some (Char.ofNat 0x7D) then closeCount state least none rest
    else do
      let (most, behind) ← readCount flags rest
      closeCount state least (some most) behind
  | rest => closeCount state least (some least) rest

/-- Reads one item, or one sign of the structure around the items, that begins with `c`. -/
def readStep (state : ReadState) (c : Char) (rest : List Char) :
    Except PatternError (ReadState × List Char) :=
  match c with
  | '(' => openParenthesis state rest
  | ')' => do return (← state.closeGroup, rest)
  | '|' => .ok ({ state with branches := state.branches.next }, rest)
  | '[' => do
    let (part, behind) ← Bracket.read state.flags rest
    return (state.push { expr := .chars part.set, depth := part.depth }, behind)
  | '?' => do return (← state.repeatLast 0 (some 1), dropLazy rest)
  | '*' => do return (← state.repeatLast 0 none, dropLazy rest)
  | '+' => do return (← state.repeatLast 1 none, dropLazy rest)
  | '.' => do return (state.push (← dotItem state.flags), rest)
  | '^' => .ok (state.push { expr := .look (startLook state.flags) }, rest)
  | '$' => .ok (state.push { expr := .look (endLook state.flags) }, rest)
  | '\\' => do
    let (atom, behind) ← readEscape state.flags rest
    return (state.push (← atom.item state.flags), behind)
  | c =>
    if c = Char.ofNat 0x7B then
      if state.branches.items.head?.any (·.repeatable) then readRepetition state rest
      else .error .nothingToRepeat
    else do return (state.push (← charItem state.flags c false), rest)

/-- Reads items until the text ends; `steps` bounds their number. -/
def readItems : Nat → ReadState → List Char → Except PatternError ReadState
  | 0, _, _ => .error .groupUnclosed
  | steps + 1, state, text =>
    match state.flags.skip text with
    | [] => .ok state
    | c :: rest => do
      let (state, behind) ← readStep state c rest
      readItems steps state behind

def ReadState.finish (state : ReadState) : Except PatternError Expr :=
  match state.frames with
  | _ :: _ => .error .groupUnclosed
  | [] =>
    let item := state.branches.close
    if depthLimit < item.depth then .error .nestedTooDeep
    else if sizeLimit < item.expr.cost true then .error .tooLarge
    else .ok item.expr

def read (text : List Char) : Except PatternError Expr := do
  let state ← readItems (text.length + 1) {} text
  state.finish

/-- What stands in front of a pattern that is to match from the start. -/
def anchorOpening : List Char := ['^', '(', '?', ':']

/-- Reads a pattern that is to match from the start of a text. The pattern is put into a group
behind a circumflex as text, so a pattern that closes this group escapes the anchor. -/
def anchored (text : String) : Except PatternError Expr :=
  read (anchorOpening ++ text.toList ++ [')'])

end TokenQuery.Pattern
