import TokenQuery.Pattern.Escape

/-!
Character classes in brackets: single characters, ranges, escapes, named ASCII classes and nested
classes, combined by intersection, difference and symmetric difference.
-/

set_option autoImplicit false

namespace TokenQuery.Pattern.Bracket

/-- The operations between the parts of a class. They bind less than juxtaposition and associate to
the left. -/
inductive Operation where
  | inter
  | diff
  | symmDiff
  deriving DecidableEq

/-- A part of a class: its set, and how deep it is nested. -/
structure Part where
  set : CharSet
  depth : Nat := 0
  deriving DecidableEq

/-- A class being read: whether it is negated, the operation waiting for its right side, and the
items since then, the last one first. -/
structure Level where
  negated : Bool
  waiting : Option (Operation × Part) := none
  items : List Part := []
  deriving DecidableEq

/-- The union of the items; more than one of them count as one level of nesting. -/
def unite (items : List Part) : Part :=
  match items with
  | [] => ⟨.nothing, 0⟩
  | [part] => part
  | items => ⟨.unions (items.reverse.map (·.set)), 1 + (items.map (·.depth)).foldl max 0⟩

def Operation.combine (operation : Operation) (flags : Flags) (left right : Part) : Part :=
  let a := foldedBy flags left.set
  let b := foldedBy flags right.set
  let set := match operation with
    | inter => .inter a b
    | diff => .diff a b
    | symmDiff => .symmDiff a b
  ⟨set, 1 + max left.depth right.depth⟩

namespace Level

def push (level : Level) (part : Part) : Level := { level with items := part :: level.items }

def value (flags : Flags) (level : Level) : Part :=
  let right := unite level.items
  match level.waiting with
  | none => right
  | some (operation, left) => operation.combine flags left right

/-- The level as it waits for the right side of an operation. -/
def await (flags : Flags) (level : Level) (operation : Operation) : Level :=
  { level with waiting := some (operation, level.value flags), items := [] }

/-- The class that the level has become at its closing bracket. -/
def close (flags : Flags) (level : Level) : Except PatternError Part := do
  let inner := level.value flags
  return ⟨← finishSet flags level.negated inner.set, 1 + inner.depth⟩

end Level

def takeHyphens (flags : Flags) : Nat → List Char → List Part × List Char
  | 0, text => ([], text)
  | steps + 1, text =>
    match flags.skip text with
    | '-' :: rest =>
      let (parts, behind) := takeHyphens flags steps rest
      (⟨.single '-', 0⟩ :: parts, behind)
    | text => ([], text)

/-- Reads the beginning of a class behind its opening bracket: a circumflex negates the class, and
leading hyphens, or without them a closing bracket, stand for themselves. -/
def openLevel (flags : Flags) (text : List Char) : Except PatternError (Level × List Char) :=
  let text := flags.skip text
  let (negated, text) := match text with
    | '^' :: rest => (true, rest)
    | text => (false, text)
  let (hyphens, text) := takeHyphens flags text.length text
  match flags.skip text with
  | [] => .error .classUnclosed
  | c :: rest =>
    if c = ']' ∧ hyphens = [] then
      match flags.skip rest with
      | [] => .error .classUnclosed
      | rest => .ok (⟨negated, none, [⟨.single ']', 0⟩]⟩, rest)
    else .ok (⟨negated, none, hyphens⟩, c :: rest)

/-- Reads a named ASCII class behind its opening bracket, when the text has the form of one and the
name is known. -/
def readNamed? (text : List Char) : Option (Bool × CharSet × List Char) :=
  match text with
  | ':' :: rest =>
    let (negated, rest) := match rest with
      | '^' :: rest => (true, rest)
      | rest => (false, rest)
    let name := rest.takeWhile (· != ':')
    match rest.dropWhile (· != ':') with
    | ':' :: ']' :: behind =>
      (namedAscii? (String.ofList name)).map fun set => (negated, set, behind)
    | _ => none
  | _ => none

def readAtom (flags : Flags) (c : Char) (rest : List Char) :
  Except PatternError (Atom × List Char) :=
  if c = '\\' then readEscape flags rest else .ok (.literal c false, rest)

/-- A character that may stand in a class under the flags: outside Unicode only ASCII ones may. -/
def literalChar (flags : Flags) (c : Char) : Except PatternError Char :=
  if flags.unicode ∨ c.toNat < 0x80 then .ok c else .error .bytewise

/-- The part that a character or an escape is on its own. Assertions are no members of a class. -/
def ofAtom (flags : Flags) : Atom → Except PatternError Part
  | .literal c _ => do return ⟨.single (← literalChar flags c), 0⟩
  | .set set => .ok ⟨set, 0⟩
  | .look _ => .error .classEscape

def boundChar (flags : Flags) : Atom → Except PatternError Char
  | .literal c _ => literalChar flags c
  | _ => .error .classRange

/-- Reads a character, an escape or a range. A hyphen in front of a closing bracket or of another
hyphen makes no range. -/
def readItem (flags : Flags) (c : Char) (rest : List Char) :
    Except PatternError (Part × List Char) := do
  let (first, behind) ← readAtom flags c rest
  match flags.skip behind with
  | [] => .error .classUnclosed
  | d :: behind =>
    if d = '-' ∧ flags.peek behind ≠ some ']' ∧ flags.peek behind ≠ some '-' then
      match flags.skip behind with
      | [] => .error .classUnclosed
      | e :: behind => do
        let (second, behind) ← readAtom flags e behind
        let low ← boundChar flags first
        let high ← boundChar flags second
        if low ≤ high then return (⟨.range low high, 0⟩, behind) else .error .classRange
    else do return (← ofAtom flags first, d :: behind)

def operation? : Char → Char → Option Operation
  | '&', '&' => some .inter
  | '-', '-' => some .diff
  | '~', '~' => some .symmDiff
  | _, _ => none

/-- Reads a class from inside its brackets. `level` is the innermost class being read and `outer`
holds those around it; `steps` bounds the number of items. -/
def readFrom (flags : Flags) : Nat → Level → List Level → List Char →
    Except PatternError (Part × List Char)
  | 0, _, _, _ => .error .classUnclosed
  | steps + 1, level, outer, text =>
    match flags.skip text with
    | [] => .error .classUnclosed
    | c :: rest =>
      match (rest.head?.bind (operation? c) : Option Operation) with
      | some operation => readFrom flags steps (level.await flags operation) outer rest.tail
      | none =>
        if c = ']' then do
          let part ← level.close flags
          match outer with
          | [] => return (part, rest)
          | above :: outer => readFrom flags steps (above.push part) outer rest
        else if c = '[' then
          match readNamed? rest with
          | some (negated, set, behind) => do
            let set ← finishSet flags negated set
            readFrom flags steps (level.push ⟨set, 0⟩) outer behind
          | none => do
            let (inner, behind) ← openLevel flags rest
            readFrom flags steps inner (level :: outer) behind
        else do
          let (part, behind) ← readItem flags c rest
          readFrom flags steps (level.push part) outer behind

def read (flags : Flags) (text : List Char) : Except PatternError (Part × List Char) := do
  let (level, behind) ← openLevel flags text
  readFrom flags (behind.length + 1) level [] behind

end TokenQuery.Pattern.Bracket
