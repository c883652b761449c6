import TokenQuery.Data.Toml.Quoted
import TokenQuery.Data.Toml.Scalar
import TokenQuery.Data.Toml.Tree

/-!
Documents of TOML: reading the text of a settings file into a table.
-/

set_option autoImplicit false

namespace TokenQuery.Toml

/-- Lists and tables inside values may be nested this deep. -/
def depthLimit : Nat := 80

def isKeyChar (c : Char) : Bool := c.isAlphanum || c == '_' || c == '-'

/-- Reads one part of a key: quoted on one line, or unquoted. -/
def readKeyPart? (text : List Char) : Option (String × List Char) :=
  match text with
  | '"' :: rest => readLine? '"' text.length [] rest
  | '\'' :: rest => readLine? '\'' text.length [] rest
  | _ =>
    let name := text.takeWhile isKeyChar
    if name.isEmpty then none else some (String.ofList name, text.dropWhile isKeyChar)

/-- Reads a key: its parts, separated by dots with blanks around them, and the blanks behind it. -/
def readKey? : Nat → List Char → Option (List String × List Char)
  | 0, _ => none
  | steps + 1, text => do
    let (part, rest) ← readKeyPart? (skipBlanks text)
    match skipBlanks rest with
    | '.' :: rest =>
      let (parts, rest) ← readKey? steps rest
      return (part :: parts, rest)
    | rest => return ([part], rest)

/-- What remains behind a comment, at the end of its line; without a comment the whole text. -/
def afterComment? (text : List Char) : Option (List Char) :=
  match text with
  | '#' :: rest =>
    let behind := rest.dropWhile (!isControl ·)
    if behind.isEmpty || (afterNewline? behind).isSome then some behind else none
  | text => some text

/-- Drops blanks, comments and line ends between the items of a value. -/
def skipTrivia? : Nat → List Char → Option (List Char)
  | 0, _ => none
  | steps + 1, text => do
    let rest ← afterComment? (skipBlanks text)
    match afterNewline? rest with
    | some rest => skipTrivia? steps rest
    | none => return rest

mutual

/-- Reads a value. `steps` bounds the work, and `depth` how deep lists and tables may still be
nested. -/
def readValue? : Nat → Nat → List Char → Option (Data × List Char)
  | 0, _, _ => none
  | steps + 1, depth, text =>
    match text with
    | '"' :: _ => (readQuoted? '"' text).map fun (s, rest) => (.text s, rest)
    | '\'' :: _ => (readQuoted? '\'' text).map fun (s, rest) => (.text s, rest)
    | '[' :: rest => if depth = 0 then none else readItems? steps (depth - 1) [] rest
    | c :: rest =>
      if c = Char.ofNat 0x7B then
        if depth = 0 then none else readFields? steps (depth - 1) [] rest
      else readScalar? (c :: rest)
    | [] => none

/-- Reads the items of a list up to its closing bracket; a comma may stand behind the last one. -/
def readItems? : Nat → Nat → List Data → List Char → Option (Data × List Char)
  | 0, _, _, _ => none
  | steps + 1, depth, taken, text => do
    match ← skipTrivia? (text.length + 1) text with
    | ']' :: rest => return (.list taken.reverse, rest)
    | text =>
      let (value, rest) ← readValue? steps depth text
      match ← skipTrivia? (rest.length + 1) rest with
      | ',' :: rest => readItems? steps depth (value :: taken) rest
      | ']' :: rest => return (.list (value :: taken).reverse, rest)
      | _ => none

/-- Reads the fields of a table in braces; a comma may stand behind the last one. -/
def readFields? : Nat → Nat → Fields → List Char → Option (Data × List Char)
  | 0, _, _, _ => none
  | steps + 1, depth, taken, text => do
    match ← skipTrivia? (text.length + 1) text with
    | [] => none
    | c :: rest =>
      if c = Char.ofNat 0x7D then return (taken.toData, rest)
      else
        let (key, rest) ← readKey? (rest.length + 2) (c :: rest)
        let '=' :: rest := rest | none
        let (value, rest) ← readValue? steps depth (skipBlanks rest)
        let taken ← taken.put value key
        match ← skipTrivia? (rest.length + 1) rest with
        | ',' :: rest => readFields? steps depth taken rest
        | d :: rest => if d = Char.ofNat 0x7D then return (taken.toData, rest) else none
        | [] => none

end

/-- A document so far: its tables, and the path of the header that the next fields belong to. -/
structure Document where
  fields : Fields := []
  path : List String := []

namespace Document

def put (document : Document) (key : List String) (value : Data) : Option Document := do
  return { document with
    fields := ← Fields.within (Fields.put value key) document.path document.fields }

/-- Goes on with the table, or the next row of the list of tables, that a header names. -/
def goTo (document : Document) (row : Bool) (key : List String) : Option Document := do
  let last ← key.getLast?
  let enter := if row then Fields.openRow last else Fields.openTable last
  return ⟨← Fields.within enter key.dropLast document.fields, key⟩

/-- Reads a header or a field at the beginning of a line. -/
def readStatement? (document : Document) (text : List Char) : Option (Document × List Char) :=
  match text with
  | '[' :: '[' :: rest => do
    let (key, rest) ← readKey? (rest.length + 1) rest
    match rest with
    | ']' :: ']' :: rest => return (← document.goTo true key, rest)
    | _ => none
  | '[' :: rest => do
    let (key, rest) ← readKey? (rest.length + 1) rest
    match rest with
    | ']' :: rest => return (← document.goTo false key, rest)
    | _ => none
  | text => do
    let (key, rest) ← readKey? (text.length + 1) text
    let '=' :: rest := rest | none
    let (value, rest) ← readValue? (2 * rest.length + 2) depthLimit (skipBlanks rest)
    return (← document.put key value, rest)

/-- Reads lines: each is empty, a header or a field, and may end with a comment. -/
def readLines? : Nat → Document → List Char → Option Document
  | 0, _, _ => none
  | steps + 1, document, text => do
    let text := skipBlanks text
    let (document, rest) ←
      match text with
      | [] => some (document, [])
      | c :: _ =>
        if c = '#' ∨ (afterNewline? text).isSome then some (document, text)
        else document.readStatement? text
    let rest ← afterComment? (skipBlanks rest)
    if rest.isEmpty then return document
    else readLines? steps document (← afterNewline? rest)

end Document

/-- Reads the text of a document; a byte order mark in front of it is dropped. -/
def read? (text : String) : Option Data := do
  let text := (Text.withoutMark text).toList
  return (← Document.readLines? (text.length + 1) {} text).fields.toData

end TokenQuery.Toml
