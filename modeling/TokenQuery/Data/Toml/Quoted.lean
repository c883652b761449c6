import TokenQuery.Unicode.Ranges

/-!
Quoted texts of TOML: basic ones with escapes and literal ones without, on one line or on several.
-/

set_option autoImplicit false

namespace TokenQuery.Toml

/-- What remains behind a line end, when the text begins with one. -/
def afterNewline? : List Char → Option (List Char)
  | '\n' :: rest => some rest
  | '\r' :: '\n' :: rest => some rest
  | _ => none

/-- Control characters other than the tab appear in no comment and no quoted text. -/
def isControl (c : Char) : Bool := (c.toNat < 0x20 && c != '\t') || c.toNat == 0x7F

def skipBlanks (text : List Char) : List Char := text.dropWhile fun c => c == ' ' || c == '\t'

def readCode? (count : Nat) (text : List Char) : Option (Char × List Char) :=
  let digits := text.take count
  if digits.length = count ∧ digits.all (fun c => (Unicode.hexValue? c).isSome) then
    let code := Unicode.hexNumber digits
    if code.isValidChar then some (Char.ofNat code, text.drop count) else none
  else none

def readEscape? : List Char → Option (Char × List Char)
  | [] => none
  | c :: rest =>
    match c with
    | 'b' => some (Char.ofNat 0x08, rest)
    | 't' => some ('\t', rest)
    | 'n' => some ('\n', rest)
    | 'f' => some (Char.ofNat 0x0C, rest)
    | 'r' => some ('\r', rest)
    | 'e' => some (Char.ofNat 0x1B, rest)
    | '"' => some ('"', rest)
    | '\\' => some ('\\', rest)
    | 'x' => readCode? 2 rest
    | 'u' => readCode? 4 rest
    | 'U' => readCode? 8 rest
    | _ => none

/-- Reads a text on one line behind its opening quote. Escapes have a meaning in double quotes only.
`steps` bounds the number of characters, and `taken` holds them in reverse. -/
def readLine? (quote : Char) : Nat → List Char → List Char → Option (String × List Char)
  | 0, _, _ => none
  | steps + 1, taken, text =>
    match text with
    | [] => none
    | c :: rest =>
      if c = quote then some (String.ofList taken.reverse, rest)
      else if c = '\\' ∧ quote = '"' then do
        let (c, rest) ← readEscape? rest
        readLine? quote steps (c :: taken) rest
      else if isControl c then none
      else readLine? quote steps (c :: taken) rest

def skipLines : Nat → List Char → List Char
  | 0, text => text
  | steps + 1, text =>
    let text := skipBlanks text
    match afterNewline? text with
    | none => text
    | some rest => skipLines steps rest

/-- Reads a text on several lines behind its opening quotes. Up to two quotes may stand in front of
the three that close it, and a backslash at the end of a line joins the lines. -/
def readLines? (quote : Char) : Nat → List Char → List Char → Option (String × List Char)
  | 0, _, _ => none
  | steps + 1, taken, text =>
    match text with
    | [] => none
    | c :: rest =>
      if c = quote then
        let run := (text.takeWhile (· == quote)).length
        if run < 3 then readLines? quote steps (c :: taken) rest
        else
          let closing := min run 5
          some (String.ofList (List.replicate (closing - 3) quote ++ taken).reverse,
            text.drop closing)
      else
        match afterNewline? text with
        | some rest => readLines? quote steps ('\n' :: taken) rest
        | none =>
          if c = '\\' ∧ quote = '"' then
            match afterNewline? (skipBlanks rest) with
            | some behind => readLines? quote steps taken (skipLines behind.length behind)
            | none => do
              let (c, rest) ← readEscape? rest
              readLines? quote steps (c :: taken) rest
          else if isControl c then none
          else readLines? quote steps (c :: taken) rest

/-- Reads a quoted text that begins with `quote`; a line end right behind three quotes is
dropped. -/
def readQuoted? (quote : Char) (text : List Char) : Option (String × List Char) :=
  if [quote, quote, quote].isPrefixOf text then
    let body := text.drop 3
    let body := (afterNewline? body).getD body
    readLines? quote (body.length + 1) [] body
  else readLine? quote text.length [] (text.drop 1)

end TokenQuery.Toml
