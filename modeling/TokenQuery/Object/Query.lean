import TokenQuery.Criteria

/-!
Object queries: an object type with tests of the identifier, from a shorthand or from parts.
-/

set_option autoImplicit false

namespace TokenQuery

/-- An object type, with tests of the object's identifier. -/
structure ObjectQuery where
  objectType : String
  exactId : Option String := none
  idPattern : Option String := none
  idIn : Option (List String) := none
  deriving DecidableEq

namespace ObjectQuery

def withId? (query : ObjectQuery) (id : Option String) : ObjectQuery :=
  match id with
  | none => query
  | some id => { query with exactId := some id }

def withIdPattern (query : ObjectQuery) (pattern : String) : ObjectQuery :=
  { query with idPattern := some pattern }

def withIdIn (query : ObjectQuery) (ids : List String) :
  ObjectQuery := { query with idIn := some ids }

/-- Reads a type, or a type and an identifier, as the shorthand of a token. -/
def parse (shorthand : String) : Except QueryError ObjectQuery := do
  let (objectType, ids) ← Shorthand.split shorthand
  match ids with
  | [] => return { objectType }
  | [id] => return { objectType, exactId := some id }
  | _ => throw (.parse .surplusColon shorthand)

/-- Combines a shorthand with a type and an identifier given on their own. Each of the two may be
given in one way only, and the type must be given. -/
def ofParts (shorthand objectType id : Option String) : Except QueryError ObjectQuery := do
  let read ← shorthand.mapM parse
  let readId := read.bind (·.exactId)
  if read.isSome && objectType.isSome then throw (.ambiguous .objectType)
  if readId.isSome && id.isSome then throw (.ambiguous .objectId)
  match (read.map (·.objectType)).or objectType with
  | none => throw (.parse .missingType (shorthand.getD ""))
  | some objectType => return ({ objectType } : ObjectQuery).withId? (readId.or id)

/-- The criteria of the token that defines the object: the type for its name, and the identifier for
its one argument. -/
def criteria (query : ObjectQuery) : Criteria :=
  let base := (Criteria.any.withName query.objectType).withArgsCount 1
  let base := match query.exactId with
    | none => base
    | some id => base.withArg 0 id
  let base := match query.idPattern with
    | none => base
    | some pattern => base.withArgPattern 0 pattern
  match query.idIn with
  | none => base
  | some ids => base.withArgIn 0 ids

end ObjectQuery

/-- What a lookup accepts: a shorthand, read when it is used, or a query. -/
inductive ObjectSpec where
  | shorthand (text : String)
  | query (query : ObjectQuery)
  deriving DecidableEq

def ObjectSpec.toQuery : ObjectSpec → Except QueryError ObjectQuery
  | shorthand text => ObjectQuery.parse text
  | query given => .ok given

end TokenQuery
