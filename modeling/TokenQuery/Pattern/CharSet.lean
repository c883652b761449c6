import TokenQuery.Text.Blank
import TokenQuery.Unicode.CaseFolding
import TokenQuery.Unicode.Property

/-!
Sets of characters as expressions, with membership as a computation.
-/

set_option autoImplicit false

namespace TokenQuery.Pattern

/-- A set of characters. `folded` closes a set under differences of case, and `foldedAscii` does so
among the ASCII letters only. -/
inductive CharSet where
  | nothing
  | range (low high : Char)
  | property (property : Unicode.Property)
  | union (a b : CharSet)
  | inter (a b : CharSet)
  | diff (a b : CharSet)
  | compl (a : CharSet)
  | folded (a : CharSet)
  | foldedAscii (a : CharSet)
  deriving DecidableEq

/-- The ASCII letters that differ from this one in case only, with the character itself. -/
def asciiOrbit (c : Char) : List Char := [c, c.toLower, c.toUpper]

namespace CharSet

def contains : CharSet → Char → Bool
  | nothing, _ => false
  | range low high, c => low ≤ c && c ≤ high
  | property p, c => p.contains c
  | union a b, c => a.contains c || b.contains c
  | inter a b, c => a.contains c && b.contains c
  | diff a b, c => a.contains c && !b.contains c
  | compl a, c => !a.contains c
  | folded a, c => (Unicode.CaseFolding.orbit c).any fun d => a.contains d
  | foldedAscii a, c => (asciiOrbit c).any fun d => a.contains d

def single (c : Char) : CharSet := .range c c

def everything : CharSet := .compl .nothing

def unions (sets : List CharSet) : CharSet :=
  match sets with
  | [] => .nothing
  | [set] => set
  | set :: rest => .union set (unions rest)

def symmDiff (a b : CharSet) : CharSet := .union (.diff a b) (.diff b a)

def ofProperties (properties : List Unicode.Property) : CharSet :=
  unions (properties.map .property)

def ofRanges (ranges : List (Char × Char)) : CharSet :=
  unions (ranges.map fun (low, high) => .range low high)

def negatedIf (negated : Bool) (set : CharSet) : CharSet := if negated then .compl set else set

/-- No character from U+0080 to U+00FF is in the set. Of a set written byte by byte this says that
it holds ASCII only. -/
def isAscii (set : CharSet) : Bool :=
  (List.range 0x80).all fun n => !set.contains (Char.ofNat (0x80 + n))

def breadth : CharSet → Nat
  | nothing => 0
  | range _ _ => 1
  | property p => p.breadth
  | union a b | inter a b | diff a b => a.breadth + b.breadth
  | compl a => a.breadth + 16
  | folded a => a.breadth + 2
  | foldedAscii a => a.breadth + 1

@[simp] theorem contains_single {c d : Char} : (single c).contains d = decide (d = c) := by
  simp only [single, contains, ← Bool.decide_and, decide_eq_decide]
  exact ⟨fun h => Char.le_antisymm h.2 h.1, fun h => h ▸ ⟨Char.le_refl _, Char.le_refl _⟩⟩

end CharSet

/-- A property test as it is written: a name alone, or a kind of property and the name of a
value. -/
inductive PropertyName where
  | alone (name : List Char)
  | valued (kind value : List Char)
  deriving DecidableEq

namespace PropertyName

/-- The set that a general category names, also "any", "assigned" and "ascii". Surrogates are not
characters, so their category names no set. -/
def category? (name : String) : Option CharSet :=
  if name = "any" then some .everything
  else if name = "ascii" then some (.range (Char.ofNat 0) (Char.ofNat 0x7F))
  else if name = "assigned" then
    (Unicode.categories? "cn").map fun properties => .compl (.ofProperties properties)
  else (Unicode.categories? name).map .ofProperties

def one? (family : Unicode.Family) (name : String) : Option CharSet :=
  (Unicode.Property.find? family name).map .property

/-- The set that a property test describes. A name alone is a binary property before it is a general
category, and a general category before it is a script; "cf", "lc" and "sc" are categories only. -/
def set? : PropertyName → Option CharSet
  | alone name =>
    let name := Unicode.looseName name
    let binary := if ["cf", "lc", "sc"].contains name then none else one? .binary name
    binary <|> category? name <|> one? .script name
  | valued kind value =>
    let value := Unicode.looseName value
    match Unicode.looseName kind with
    | "gc" | "generalcategory" => category? value
    | "sc" | "script" => one? .script value
    | "scx" | "scriptextensions" => one? .scriptExtension value <|> one? .script value
    | "age" => (Unicode.Property.upTo? .age value).map .ofProperties
    | "gcb" | "graphemeclusterbreak" => one? .graphemeCluster value
    | "wb" | "wordbreak" => one? .word value
    | "sb" | "sentencebreak" => one? .sentence value
    | _ => none

end PropertyName

/-- The sets that an escaped letter names. -/
inductive LetterClass where
  | digit
  | space
  | word
  deriving DecidableEq

/-- The decimal digits, the blanks or the characters of words. -/
def LetterClass.set : LetterClass → CharSet
  | digit => .ofProperties ((Unicode.categories? "nd").getD [])
  | space => .ofProperties ((Unicode.Property.find? .binary "whitespace").toList)
  | word => .ofProperties Unicode.wordProperties

def LetterClass.asciiSet : LetterClass → CharSet
  | digit => .range '0' '9'
  | space => .ofRanges [('\t', '\r'), (' ', ' ')]
  | word => .ofRanges [('0', '9'), ('A', 'Z'), ('_', '_'), ('a', 'z')]

def namedAscii? (name : String) : Option CharSet :=
  match name with
  | "alnum" => some (.ofRanges [('0', '9'), ('A', 'Z'), ('a', 'z')])
  | "alpha" => some (.ofRanges [('A', 'Z'), ('a', 'z')])
  | "ascii" => some (.range (Char.ofNat 0) (Char.ofNat 0x7F))
  | "blank" => some (.ofRanges [('\t', '\t'), (' ', ' ')])
  | "cntrl" =>
    some (.ofRanges [(Char.ofNat 0, Char.ofNat 0x1F), (Char.ofNat 0x7F, Char.ofNat 0x7F)])
  | "digit" => some (.range '0' '9')
  | "graph" => some (.range '!' '~')
  | "lower" => some (.range 'a' 'z')
  | "print" => some (.range ' ' '~')
  | "punct" =>
    some (.ofRanges [('!', '/'), (':', '@'), ('[', Char.ofNat 0x60), (Char.ofNat 0x7B, '~')])
  | "space" => some (.ofRanges [('\t', '\r'), (' ', ' ')])
  | "upper" => some (.range 'A' 'Z')
  | "word" => some (.ofRanges [('0', '9'), ('A', 'Z'), ('_', '_'), ('a', 'z')])
  | "xdigit" => some (.ofRanges [('0', '9'), ('A', 'F'), ('a', 'f')])
  | _ => none

end TokenQuery.Pattern
