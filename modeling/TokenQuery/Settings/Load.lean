import TokenQuery.Data.Json
import TokenQuery.Data.KeyPath
import TokenQuery.Data.Toml.Document
import TokenQuery.Decode

/-!
Loading settings: a file or a text, with variables of the environment laid over it.

A variable counts when its name begins with the prefix. The rest of the name, in lower case and with
dots for double underscores, is the path of the setting. Its value is a truth value or a number if
it reads as one, whatever the setting is. Else it is a text, or for a setting that is a list the
parts of the text between commas. So a list of one name that reads as a number is not written as a
list.
-/

set_option autoImplicit false

namespace TokenQuery

namespace Environment

/-- How the names of variables for settings begin, in lower case. -/
def namePrefix : List Char := "rawquery__".toList

def listPaths : List String := ["scope.categories"]

/-- The lower case of a character, as far as that is ASCII; the Kelvin sign is a K. -/
def lower (c : Char) : Char := if c.toNat = 0x212A then 'k' else c.toLower

/-- The name of the setting that a variable is about, if it is about one. -/
def settingName? (given : String) : Option String :=
  (Text.after? namePrefix (given.toList.map lower)).map fun rest =>
    Text.replaced "__" "." (String.ofList rest)

/-- The truth value or the number that a text reads as: a truth value in any case, a whole number or
a floating-point number. -/
def guessed? (value : String) : Option Data :=
  match lowerAscii value with
  | "true" => some (.bool true)
  | "false" => some (.bool false)
  | _ =>
    match Decimal.readInt? Decimal.leastSigned Decimal.greatestSigned value.toList with
    | some n => some (.int n)
    | none => (Decimal.readFloat? value.toList).map .float

/-- The value of a setting in a variable. The guess comes before the commas of a list. -/
def value (name value : String) : Data :=
  (guessed? value).getD
    (if listPaths.contains name then .list ((Text.parts ',' value).map .text) else .text value)

def settings (overrides : List (String × String)) : List (String × Data) :=
  overrides.filterMap fun (given, text) =>
    (settingName? given).map fun name => (name, value name text)

end Environment

namespace Settings

/-- The fields of a document and the settings of the environment, laid one over the other in this
order. The name of each is a path. That the keys of a document are laid in its order is an
assumption, since they have none: it matters where two of them lead to one setting, of which one has
a dot in it. -/
def layered (document : Data) (overrides : List (String × String)) : Data :=
  (document.fields ++ Environment.settings overrides).foldl
    (fun data (name, value) => data.overlayAt (.ofName name) value) (.table [])

/-- The settings in a document, with the variables of the environment laid over it. -/
def ofDocument (origin : String) (document : Data) (overrides : List (String × String)) :
    Traced Settings := do
  match Decode.settings? .lenient (layered document overrides) with
  | none => Traced.fail (.settings .mistyped)
  | some settings =>
    Traced.note (.settingsLoaded origin settings.queries.length settings.objects.rules.length)
    return settings

def ofToml (text : String) (overrides : List (String × String)) : Traced Settings :=
  match Toml.read? text with
  | none => Traced.fail (.settings .malformed)
  | some document => ofDocument "inline" document overrides

/-- What follows the last dot in the last part of a path; a dot in front of a name begins no
extension. -/
def extension? (path : String) : Option String :=
  let name := (Text.parts '/' path).getLast?.getD ""
  match (name.toList.splitOn '.').reverse with
  | last :: before :: rest =>
    if before.isEmpty && rest.isEmpty then none else some (String.ofList last)
  | _ => none

def readFile (extension contents : String) : Except QueryError Data :=
  match extension with
  | "toml" =>
    match Toml.read? contents with
    | none => .error (.settings .malformed)
    | some document => .ok document
  | "json" =>
    match Json.read? contents with
    | some (.table fields) => .ok (Data.narrowed (.table fields))
    | _ => .error (.settings .malformed)
  | _ => .error (.settings .unknownFormat)

/-- The settings in the file at a path, whose extension tells the format. A file that does not exist
has no contents, and a byte order mark in front of them is dropped. -/
def load (path : String) (contents : Option String) (overrides : List (String × String)) :
    Traced Settings := do
  match contents with
  | none => Traced.fail (.settings .missingFile)
  | some contents =>
    let document ← readFile ((extension? path).getD "") (Text.withoutMark contents)
    ofDocument path document overrides

end Settings

end TokenQuery
