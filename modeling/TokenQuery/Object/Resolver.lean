import TokenQuery.Object.Query
import TokenQuery.Object.TypeRule
import TokenQuery.Scan

/-!
Objects and their definitions. A source declares by its first token which kinds of objects it
defines: the sentinel with a tag for its one argument. The type of an object is resolved into the
tags that may declare it, and its definitions are looked for in the sources with such a tag only.
-/

set_option autoImplicit false

namespace TokenQuery

/-- How object types are resolved into header tags. -/
structure Resolver where
  sentinel : String := "OBJECT"
  rules : List TypeRule := [
    .exact ["WORD", "SYMBOL", "TRANSLATION"] ["LANGUAGE"],
    .prefixed "ITEM_" ["ITEM"],
    .exact ["COLOR", "SHAPE"] ["DESCRIPTOR", "DESCRIPTOR_" ++ TypeRule.placeholder],
    .exact ["COLOR_PATTERN"] ["DESCRIPTOR_PATTERN"],
    .prefixed "MATGLOSS_" ["MATGLOSS"],
    .exact ["TILE_PAGE", "CREATURE_GRAPHICS"] ["GRAPHICS"]]
  deriving DecidableEq

namespace Resolver

def standard : Resolver := {}

/-- The header tags of an object type: those of the first rule about it, or the type itself when no
rule is about it. -/
def normalize (resolver : Resolver) (objectType : String) : List String :=
  (resolver.rules.findSome? (·.tags? objectType)).getD [objectType]

/-- The source is headed by the sentinel with one of the tags for its one argument. -/
def isHeader (resolver : Resolver) (tags : List String) (sequence : Sequence) : Bool :=
  match sequence.tokens.head? with
  | none => false
  | some root =>
    root.name == resolver.sentinel &&
      match root.args with
      | [tag] => tags.contains tag
      | _ => false

def rootsOf (resolver : Resolver) (tags : List String) (sources : List Source) : List Handle :=
  (sources.filter fun source => resolver.isHeader tags source.sequence).filterMap Source.root?

/-- The root tokens of the sources that may declare objects of a type. -/
def headers (resolver : Resolver) (sources : List Source) (objectType : String) : List Handle :=
  resolver.rootsOf (resolver.normalize objectType) sources

/-- Compiles a lookup: the object type, its tags and the matcher of its definitions. -/
def prepare (resolver : Resolver) (spec : ObjectSpec) :
    Traced (String × List String × Matcher) := do
  let query ← spec.toQuery
  let matcher ← query.criteria.compile
  Traced.note (.resolvingObject query.objectType)
  return (query.objectType, resolver.normalize query.objectType, matcher)

/-- The first match after any of the roots, in their order. -/
def firstAfter (matcher : Matcher) : List Handle → Traced (Option Handle)
  | [] => return none
  | root :: rest => do
    let scan ← Scan.of root {}
    let target : Filter := { matcher }
    let found ← scan.resultOf [(target.withLimit 1).terminate] 0
    match found[0]? with
    | some handle => return some handle
    | none => firstAfter matcher rest

def allAfter (matcher : Matcher) : List Handle → Traced (List Handle)
  | [] => return []
  | root :: rest => do
    let scan ← Scan.of root {}
    let found ← scan.resultOf [{ matcher }] 0
    return found.toList ++ (← allAfter matcher rest)

/-- The first definition of an object, in the order of the sources. -/
def getObject (resolver : Resolver) (sources : List Source) (spec : ObjectSpec) :
    Traced (Option Handle) := do
  let (_, tags, matcher) ← resolver.prepare spec
  firstAfter matcher (resolver.rootsOf tags sources)

/-- Every definition of matching objects, in the order of the sources. -/
def allObjects (resolver : Resolver) (sources : List Source) (spec : ObjectSpec) :
    Traced (List Handle) := do
  let (objectType, tags, matcher) ← resolver.prepare spec
  let roots := resolver.rootsOf tags sources
  let found ← allAfter matcher roots
  if roots.isEmpty then Traced.note (.typeUndeclared objectType)
  return found

/-- Matching objects by identifier. Of definitions with one identifier the last one counts. -/
def objectMap (resolver : Resolver) (sources : List Source) (spec : ObjectSpec) :
    Traced (List (String × Handle)) := do
  let found ← resolver.allObjects sources spec
  return found.foldl (fun entries handle =>
    match handle.token.arg? 0 with
    | none => entries
    | some id => Entries.set id handle entries) []

end Resolver

end TokenQuery
