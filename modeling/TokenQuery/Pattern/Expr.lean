import TokenQuery.Pattern.CharSet

/-!
Pattern expressions and how they match.

Matching goes from left to right with the set of expressions that remain to be matched: `rests`
takes an expression over one character, and `matchesEmpty` tells whether an expression can end here.
Both see the characters on the two sides of the present position, which the assertions depend on.
The time is linear in the text for every expression.
-/

set_option autoImplicit false

namespace TokenQuery.Pattern

/-- What an assertion on words asks of a position. -/
inductive WordTest where
  | boundary
  | noBoundary
  | start
  | stop
  | startHalf
  | stopHalf
  deriving DecidableEq

/-- The test holds at a position with a word's character before it or not, and after it or not. -/
def WordTest.holds : WordTest → (before after : Bool) → Bool
  | boundary, before, after => before != after
  | noBoundary, before, after => before == after
  | start, before, after => !before && after
  | stop, before, after => before && !after
  | startHalf, before, _ => !before
  | stopHalf, _, after => !after

/-- An assertion on a position. The forms with `crlf` take a carriage return, a line feed and both
together for one end of line. -/
inductive Look where
  | textStart
  | textEnd
  | lineStart
  | lineEnd
  | crlfLineStart
  | crlfLineEnd
  | word (unicode : Bool) (test : WordTest)
  deriving DecidableEq

/-- The character belongs to a word, in Unicode or in ASCII. -/
def inWord (unicode : Bool) (c : Char) : Bool :=
  if unicode then Unicode.isWord c else c.isAlphanum || c == '_'

/-- The assertion holds between the character before the position and the one after it. -/
def Look.holds (before after : Option Char) : Look → Bool
  | textStart => before.isNone
  | textEnd => after.isNone
  | lineStart => before.isNone || before == some '\n'
  | lineEnd => after.isNone || after == some '\n'
  | crlfLineStart =>
    before.isNone || before == some '\n' || (before == some '\r' && after != some '\n')
  | crlfLineEnd =>
    after.isNone || after == some '\r' || (after == some '\n' && before != some '\r')
  | word unicode test => test.holds (before.any (inWord unicode)) (after.any (inWord unicode))

/-- A pattern expression. `repeated e least further` repeats `e` at least `least` times, and then at
most `further` times more when that is given. -/
inductive Expr where
  | empty
  | chars (set : CharSet)
  | look (look : Look)
  | seq (first second : Expr)
  | alt (left right : Expr)
  | repeated (body : Expr) (least : Nat) (further : Option Nat)
  deriving DecidableEq

namespace Expr

def seqs : List Expr → Expr
  | [] => .empty
  | [e] => e
  | e :: rest => .seq e (seqs rest)

/-- The expressions as alternatives; none at all matches nothing. -/
def alts : List Expr → Expr
  | [] => .chars .nothing
  | [e] => e
  | e :: rest => .alt e (alts rest)

/-- The expression can match the empty text between these two characters. -/
def matchesEmpty (before after : Option Char) : Expr → Bool
  | empty => true
  | chars _ => false
  | look l => l.holds before after
  | seq first second => first.matchesEmpty before after && second.matchesEmpty before after
  | alt left right => left.matchesEmpty before after || right.matchesEmpty before after
  | repeated body least _ => least == 0 || body.matchesEmpty before after

/-- `rest` in sequence after what remains of an expression. -/
def andThen (remaining rest : Expr) : Expr :=
  match remaining with
  | .empty => rest
  | remaining => .seq remaining rest

/-- What can remain of the expression once it has taken the character `c`, which follows `before`.
A repetition whose body can match the empty text here may count as many of the rounds that it still
needs as it likes as done, and leave the others for later. -/
def rests (before : Option Char) (c : Char) : Expr → List Expr
  | empty => []
  | chars set => if set.contains c then [.empty] else []
  | look _ => []
  | seq first second =>
    (first.rests before c).map (·.andThen second) ++
      if first.matchesEmpty before (some c) then second.rests before c else []
  | alt left right => left.rests before c ++ right.rests before c
  | repeated body 0 further =>
    if further = some 0 then []
    else (body.rests before c).map (·.andThen (.repeated body 0 (further.map (· - 1))))
  | repeated body (least + 1) further =>
    let remaining :=
      if body.matchesEmpty before (some c) then .repeated body 0 (further.map (least + ·))
      else .repeated body least further
    (body.rests before c).map (·.andThen remaining)

/-- Some text from here on is matched by one of the `pending` expressions, or by `start` from a
later position. -/
def found (start : Expr) (before : Option Char) (pending : List Expr) : List Char → Bool
  | [] => pending.any (·.matchesEmpty before none)
  | c :: text =>
    pending.any (·.matchesEmpty before (some c)) ||
      found start (some c) (start :: pending.flatMap (·.rests before c)).eraseDups text

def occursIn (e : Expr) (text : List Char) : Bool := found e none [e] text

def isEmptyOnly : Expr → Bool
  | empty | look _ => true
  | chars _ => false
  | seq a b | alt a b => a.isEmptyOnly && b.isEmptyOnly
  | repeated body least further => body.isEmptyOnly || (least == 0 && further == some 0)

/-- The size of the expression with its counted repetitions written out, in bytes of a table with a
row for every character. A character that is written `once`, outside counted repetitions, takes no
room: texts of any length can be spelled out, which the patterns of boundaries rely on. -/
def cost (once : Bool) : Expr → Nat
  | empty => 0
  | chars (.range low high) =>
    if low = high then if once then 0 else 32 * low.utf8Size else 96
  | chars set => 64 * set.breadth
  | look _ => 32
  | seq a b => a.cost once + b.cost once
  | alt a b => a.cost once + b.cost once + 32
  | repeated body least further =>
    if body.isEmptyOnly then body.cost once + 32
    else
      let rounds := (further.map (least + ·)).getD (max least 1)
      body.cost (once && decide (rounds ≤ 1)) * rounds + 32

end Expr

end TokenQuery.Pattern
