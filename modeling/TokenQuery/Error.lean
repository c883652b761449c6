import TokenQuery.Token

/-!
What can go wrong, as causes, and the wording of each cause.
-/

set_option autoImplicit false

namespace TokenQuery

/-- Why a shorthand text does not read. -/
inductive ShorthandError where
  | unbalancedBrackets
  | missingName
  | surplusColon
  | missingType
  deriving DecidableEq

/-- What was specified in two ways that exclude each other. -/
inductive Ambiguity where
  | nameTest
  | argumentTest (position : Nat)
  | objectType
  | objectId
  | shorthandFilter (shorthand : String)
  deriving DecidableEq

/-- Why a pattern is refused. -/
inductive PatternError where
  | groupUnclosed
  | groupUnopened
  | groupName
  | groupNameRepeated
  | lookaround
  | flag
  | flagRepeated
  | flagsUnclosed
  | negationDangling
  | nothingToRepeat
  | countUnclosed
  | countEmpty
  | countTooLarge
  | countReversed
  | escapeUnfinished
  | escapeUnknown
  | backreference
  | hexadecimal
  | wordBoundary
  | classUnclosed
  | classRange
  | classEscape
  | property
  | bytewise
  | nestedTooDeep
  | tooLarge
  deriving DecidableEq

/-- Why settings do not load. -/
inductive SettingsError where
  | missingFile
  | unknownFormat
  | malformed
  | mistyped
  deriving DecidableEq

/-- Why a batch of edits is refused. -/
inductive EditError where
  | unknownSource (name : String)
  | foreign (location : Location) (sequence : String)
  | noToken (location : Location)
  | noArgument (position : Nat) (token : Token) (location : Location)
  deriving DecidableEq

/-- Every failure of the library. -/
inductive QueryError where
  | settings (cause : SettingsError)
  | ambiguous (cause : Ambiguity)
  | selfInclusion
  | parse (cause : ShorthandError) (input : String)
  | pattern (cause : PatternError)
  | edit (cause : EditError)
  deriving DecidableEq

def ShorthandError.message : ShorthandError → String
  | unbalancedBrackets => "unbalanced brackets"
  | missingName => "missing token name"
  | surplusColon => "expected at most one ':' between object type and identifier"
  | missingType => "missing object type"

def Ambiguity.message : Ambiguity → String
  | nameTest => "both a pattern and a set of names were given for the name"
  | argumentTest position =>
    "both a pattern and a set of values were given for argument " ++ toString position
  | objectType => "object type given both in shorthand and explicitly"
  | objectId => "object identifier given both in shorthand and explicitly"
  | shorthandFilter shorthand =>
    "shorthand '" ++ shorthand ++ "' given together with a name or argument list"

def PatternError.message : PatternError → String
  | groupUnclosed => "a group is not closed"
  | groupUnopened => "a parenthesis closes no group"
  | groupName => "a group name is malformed"
  | groupNameRepeated => "two groups have the same name"
  | lookaround => "assertions on surrounding text are not supported"
  | flag => "unknown flag"
  | flagRepeated => "a flag is given twice"
  | flagsUnclosed => "a list of flags is not closed"
  | negationDangling => "a flag negation negates nothing"
  | nothingToRepeat => "there is nothing to repeat"
  | countUnclosed => "a repetition count is not closed"
  | countEmpty => "a repetition count has no number"
  | countTooLarge => "a repetition count is too large"
  | countReversed => "a repetition count has its bounds reversed"
  | escapeUnfinished => "an escape ends too early"
  | escapeUnknown => "unknown escape"
  | backreference => "references to groups are not supported"
  | hexadecimal => "a hexadecimal escape is malformed"
  | wordBoundary => "a word boundary is malformed"
  | classUnclosed => "a character class is not closed"
  | classRange => "a character range is malformed"
  | classEscape => "an escape is not allowed in a character class"
  | property => "unknown character property"
  | bytewise => "the pattern could match a part of a character"
  | nestedTooDeep => "the pattern is nested too deep"
  | tooLarge => "the pattern is too large"

def SettingsError.message : SettingsError → String
  | missingFile => "the settings file does not exist"
  | unknownFormat => "the format of the settings file is not known"
  | malformed => "the settings are malformed"
  | mistyped => "a setting has the wrong type"

def EditError.message : EditError → String
  | unknownSource name => "unknown source " ++ name
  | foreign location sequence =>
    location.render ++ " does not belong to source " ++ sequence
  | noToken location => "no token at " ++ location.render
  | noArgument position token location =>
    "argument " ++ toString position ++ " is out of range for " ++ token.render ++ " at " ++
      location.render

/-- The wording of any failure: its kind and then its cause. -/
def QueryError.message : QueryError → String
  | settings cause => "Config error: " ++ cause.message
  | ambiguous cause => "Ambiguous specification: " ++ cause.message
  | selfInclusion => "Invalid traversal: a token source cannot include itself"
  | parse cause _ => "Parse error: " ++ cause.message
  | pattern cause => "Pattern error: " ++ cause.message
  | edit cause => "Edit error: " ++ cause.message

end TokenQuery
