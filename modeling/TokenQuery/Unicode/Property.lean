import TokenQuery.Unicode.Age
import TokenQuery.Unicode.Binary
import TokenQuery.Unicode.Category
import TokenQuery.Unicode.Script
import TokenQuery.Unicode.ScriptExtension
import TokenQuery.Unicode.Segmentation

/-!
Properties of characters, looked up by the names that they go by.
-/

set_option autoImplicit false

namespace TokenQuery.Unicode

/-- The kinds of properties. -/
inductive Family where
  | category
  | script
  | scriptExtension
  | binary
  | age
  | graphemeCluster
  | word
  | sentence
  deriving DecidableEq

def Family.tables : Family → Array Table
  | category => Category.tables
  | script => Script.tables
  | scriptExtension => ScriptExtension.tables
  | binary => Binary.tables
  | age => Age.tables
  | graphemeCluster => Segmentation.graphemeCluster
  | word => Segmentation.word
  | sentence => Segmentation.sentence

/-- One table of a kind, by its index. -/
structure Property where
  family : Family
  index : Nat
  deriving DecidableEq

namespace Property

def ranges? (property : Property) : Option Ranges :=
  property.family.tables[property.index]?.map (·.ranges)

def contains (property : Property) (c : Char) : Bool :=
  match property.ranges? with
  | none => false
  | some ranges => ranges.contains c.toNat

def breadth (property : Property) : Nat :=
  match property.ranges? with
  | none => 0
  | some ranges => ranges.bounds.size

def find? (family : Family) (name : String) : Option Property :=
  (family.tables.findIdx? (·.names.contains name)).map (⟨family, ·⟩)

/-- The properties of a kind up to and including the one that goes by a name. -/
def upTo? (family : Family) (name : String) : Option (List Property) :=
  (find? family name).map fun last => (List.range (last.index + 1)).map (⟨family, ·⟩)

end Property

/-- Names are compared without case, blanks, hyphens, underscores, characters outside ASCII and a
leading "is". The name "isc" keeps its "is". -/
def looseName (name : List Char) : String :=
  let (led, body) := match name with
    | i :: s :: rest => if i.toLower = 'i' && s.toLower = 's' then (true, rest) else (false, name)
    | _ => (false, name)
  let kept := body.filter fun c => c.toNat < 0x80 && c != ' ' && c != '_' && c != '-'
  let plain := kept.map Char.toLower
  String.ofList (if led && plain = ['c'] then ['i', 's', 'c'] else plain)

def categories? (name : String) : Option (List Property) :=
  match Category.groups.find? (·.1.contains name) with
  | some (_, members) => some (members.filterMap (Property.find? .category))
  | none => (Property.find? .category name).map ([·])

/-- The properties of a character in a word: letters, marks, decimal digits, connecting punctuation
and joiners. -/
def wordProperties : List Property :=
  (["alphabetic", "joincontrol"].filterMap (Property.find? .binary)) ++
    ((["mark", "nd", "pc"].filterMap categories?).flatten)

def isWord (c : Char) : Bool := wordProperties.any (·.contains c)

def isAlphabetic (c : Char) : Bool :=
  (Property.find? .binary "alphabetic").any (·.contains c)

def isNumeric (c : Char) : Bool := ((categories? "n").getD []).any (·.contains c)

end TokenQuery.Unicode
