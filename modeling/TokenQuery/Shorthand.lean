import TokenQuery.Error
import TokenQuery.Text.Blank

/-!
The shorthand of a token: a name and arguments separated by colons, in one pair of brackets or in
none, with blanks around it. `split` reads it, and `Token.parse` makes the token.
-/

set_option autoImplicit false

namespace TokenQuery.Shorthand

/-- What the brackets enclose, or the whole text when it has none. A bracket on one side only is
unbalanced. -/
def unbracketed (text : List Char) : Option (List Char) :=
  if text.head? = some '[' then
    if text.getLast? = some ']' then some text.tail.dropLast else none
  else
    if text.getLast? = some ']' then none else some text

def read (text : List Char) : Except ShorthandError (List Char × List (List Char)) :=
  match unbracketed text with
  | none => .error .unbalancedBrackets
  | some inner =>
    match inner.splitOn ':' with
    | [] | [] :: _ => .error .missingName
    | name :: args => .ok (name, args)

/-- Reads a shorthand: blanks around it are dropped, nothing inside is trimmed, and empty arguments
are kept. -/
def split (text : String) : Except QueryError (String × List String) :=
  match read (Text.trim text.toList) with
  | .error cause => .error (.parse cause text)
  | .ok (name, args) => .ok (String.ofList name, args.map String.ofList)

end TokenQuery.Shorthand

namespace TokenQuery.Token

def parse (text : String) : Except QueryError Token := do
  let (name, args) ← Shorthand.split text
  return ⟨name, args⟩

end TokenQuery.Token
