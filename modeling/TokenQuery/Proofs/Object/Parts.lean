import TokenQuery.Proofs.Object.Readers
import TokenQuery.Proofs.Scan.Refusal

/-!
Object queries from parts. A type can be supplied in a shorthand or on its own, and so can an
identifier. Main statement: the parts make a query exactly when the shorthand reads, one of the two
supplies the type and at most one the identifier, and the query does not tell which one it was; else
the first fault is reported (`ofParts_of_supplied`).
-/

set_option autoImplicit false

namespace TokenQuery.ObjectQuery

section Supplied

variable {α : Type} {first second : Option α}

/-- What is supplied for one thing that can be given in two ways. -/
def supplied (first second : Option α) : List α := first.toList ++ second.toList

private theorem head?_supplied : (supplied first second).head? = first.or second := by
  cases first with
  | none => exact Option.head?_toList
  | some a => rfl

private theorem one_lt_length_supplied_iff :
    1 < (supplied first second).length ↔ (first.isSome && second.isSome) = true := by
  cases first with
  | none => cases second <;> simp [supplied]
  | some a => cases second <;> simp [supplied]

private theorem length_supplied_none_left : (supplied none second).length ≤ 1 := by
  cases second <;> simp [supplied]

private theorem length_supplied_none_right : (supplied first none).length ≤ 1 := by
  cases first <;> simp [supplied]

end Supplied

/-- The query in a shorthand, if there is one and it reads. -/
def readOf (shorthand : Option String) : Option ObjectQuery :=
  shorthand.bind fun text => (parse text).toOption

/-- The error of a shorthand that does not read. -/
def misread? (shorthand : Option String) : Option QueryError :=
  shorthand.bind fun text => error? (parse text)

/-- The types that a shorthand and a type on its own supply. -/
def suppliedTypes (shorthand objectType : Option String) : List String :=
  supplied ((readOf shorthand).map (·.objectType)) objectType

/-- The identifiers that a shorthand and an identifier on its own supply. -/
def suppliedIds (shorthand id : Option String) : List String :=
  supplied ((readOf shorthand).bind (·.exactId)) id

/-- What is wrong with the parts of a query, in the order in which it is noticed: the shorthand does
not read, the type is supplied twice, the identifier is supplied twice, or no type is supplied. -/
def partFaults (shorthand objectType id : Option String) : List QueryError :=
  (misread? shorthand).toList ++
    (if 1 < (suppliedTypes shorthand objectType).length then [.ambiguous .objectType] else []) ++
    (if 1 < (suppliedIds shorthand id).length then [.ambiguous .objectId] else []) ++
    (if suppliedTypes shorthand objectType = [] then [.parse .missingType (shorthand.getD "")]
      else [])

variable {shorthand objectType id : Option String} {text : String} {query : ObjectQuery}
  {error : QueryError}

private theorem mapM_parse_of_misread (misread : misread? shorthand = some error) :
    shorthand.mapM parse = .error error := by
  obtain ⟨text, rfl, refused⟩ := Option.bind_eq_some_iff.mp misread
  cases outcome : parse text with
  | error other =>
    rw [outcome] at refused
    obtain rfl := Option.some.inj refused
    rw [Option.mapM_some, outcome]
    rfl
  | ok query =>
    rw [outcome] at refused
    cases refused

private theorem mapM_parse_of_not_misread (reads : misread? shorthand = none) :
    shorthand.mapM parse = .ok (readOf shorthand) := by
  cases shorthand with
  | none => rfl
  | some text =>
    cases outcome : parse text with
    | error error =>
      rw [misread?, Option.bind_some, outcome] at reads
      cases reads
    | ok query =>
      rw [Option.mapM_some, readOf, Option.bind_some, outcome]
      rfl

private theorem misread?_eq_none_iff :
    misread? shorthand = none ↔ ∀ text ∈ shorthand, ∃ query, parse text = .ok query := by
  cases shorthand with
  | none => simp [misread?]
  | some text =>
    cases outcome : parse text with
    | error error => simp [misread?, error?, outcome]
    | ok query => simp [misread?, error?, outcome]

private theorem ofParts_of_reads (reads : misread? shorthand = none) :
    ofParts shorthand objectType id =
      if 1 < (suppliedTypes shorthand objectType).length then .error (.ambiguous .objectType)
      else if 1 < (suppliedIds shorthand id).length then .error (.ambiguous .objectId)
      else
        match (suppliedTypes shorthand objectType).head? with
        | none => .error (.parse .missingType (shorthand.getD ""))
        | some type =>
          .ok (({ objectType := type } : ObjectQuery).withId?
            (suppliedIds shorthand id).head?) := by
  unfold ofParts
  rw [mapM_parse_of_not_misread reads]
  simp only [suppliedTypes, suppliedIds, one_lt_length_supplied_iff, head?_supplied,
    Option.isSome_map, bind, Except.bind]
  cases (readOf shorthand).isSome && objectType.isSome with
  | true => rfl
  | false =>
    cases ((readOf shorthand).bind (·.exactId)).isSome && id.isSome with
    | true => rfl
    | false =>
      cases ((readOf shorthand).map (·.objectType)).or objectType with
      | none => rfl
      | some type => rfl

private theorem ofParts_of_misread (misread : misread? shorthand = some error) :
    ofParts shorthand objectType id = .error error := by
  unfold ofParts
  rw [mapM_parse_of_misread misread]
  rfl

private theorem partFaults_eq_nil_iff :
    partFaults shorthand objectType id = [] ↔
      (∀ text ∈ shorthand, ∃ read, parse text = .ok read) ∧ (suppliedIds shorthand id).length ≤ 1 ∧
        ∃ type, suppliedTypes shorthand objectType = [type] := by
  have one : (∃ type, suppliedTypes shorthand objectType = [type]) ↔
      (suppliedTypes shorthand objectType).length ≤ 1 ∧
        suppliedTypes shorthand objectType ≠ [] := by
    rw [← List.length_eq_one_iff, ← List.length_pos_iff]
    omega
  simp only [partFaults, List.append_eq_nil_iff, Option.toList_eq_nil_iff, misread?_eq_none_iff,
    ite_eq_right_iff, List.cons_ne_nil, imp_false, Nat.not_lt, one]
  constructor
  · rintro ⟨⟨⟨reads, types⟩, ids⟩, some_type⟩
    exact ⟨reads, ids, types, some_type⟩
  · rintro ⟨reads, ids, types, some_type⟩
    exact ⟨⟨⟨reads, types⟩, ids⟩, some_type⟩

private theorem ofParts_of_fault (first : (partFaults shorthand objectType id).head? = some error) :
    ofParts shorthand objectType id = .error error := by
  unfold partFaults at first
  cases misread : misread? shorthand with
  | some other =>
    rw [misread] at first
    obtain rfl := Option.some.inj first
    exact ofParts_of_misread misread
  | none =>
    rw [misread] at first
    rw [ofParts_of_reads misread]
    by_cases types : 1 < (suppliedTypes shorthand objectType).length
    · rw [if_pos types] at first ⊢
      exact congrArg Except.error (Option.some.inj first)
    · by_cases ids : 1 < (suppliedIds shorthand id).length
      · rw [if_neg types, if_pos ids] at first ⊢
        exact congrArg Except.error (Option.some.inj first)
      · rw [if_neg types, if_neg ids] at first ⊢
        cases supplies : suppliedTypes shorthand objectType with
        | nil =>
          rw [supplies] at first
          exact congrArg Except.error (Option.some.inj first)
        | cons type rest =>
          rw [supplies] at first
          cases first

private theorem ofParts_of_faultless (faultless : partFaults shorthand objectType id = [])
    {type : String}
    (supplies : suppliedTypes shorthand objectType = [type]) :
    ofParts shorthand objectType id =
      .ok (({ objectType := type } : ObjectQuery).withId? (suppliedIds shorthand id).head?) := by
  obtain ⟨reads, ids, _⟩ := partFaults_eq_nil_iff.mp faultless
  rw [ofParts_of_reads (misread?_eq_none_iff.mpr reads), supplies, if_neg (by simp),
    if_neg (Nat.not_lt.mpr ids)]
  rfl

private theorem ofParts_eq_ok_iff :
    ofParts shorthand objectType id = .ok query ↔
      (∀ text ∈ shorthand, ∃ read, parse text = .ok read) ∧
        (suppliedIds shorthand id).length ≤ 1 ∧
        ∃ type, suppliedTypes shorthand objectType = [type] ∧
          query =
            ({ objectType := type } : ObjectQuery).withId? (suppliedIds shorthand id).head? := by
  constructor
  · intro made
    cases faults : partFaults shorthand objectType id with
    | nil =>
      obtain ⟨reads, ids, type, supplies⟩ := partFaults_eq_nil_iff.mp faults
      rw [ofParts_of_faultless faults supplies] at made
      exact ⟨reads, ids, type, supplies, (Except.ok.inj made).symm⟩
    | cons error rest =>
      have first : (partFaults shorthand objectType id).head? = some error := by
        rw [faults]
        rfl
      rw [ofParts_of_fault first] at made
      cases made
  · rintro ⟨reads, ids, type, supplies, rfl⟩
    have faultless := partFaults_eq_nil_iff.mpr ⟨reads, ids, type, supplies⟩
    exact ofParts_of_faultless faultless supplies

private theorem ofParts_eq_error_iff :
    ofParts shorthand objectType id = .error error ↔
      (partFaults shorthand objectType id).head? = some error := by
  constructor
  · intro fails
    cases first : (partFaults shorthand objectType id).head? with
    | none =>
      have faultless := List.head?_eq_none_iff.mp first
      obtain ⟨_, _, type, supplies⟩ := partFaults_eq_nil_iff.mp faultless
      rw [ofParts_of_faultless faultless supplies] at fails
      cases fails
    | some other =>
      rw [ofParts_of_fault first] at fails
      exact congrArg some (Except.error.inj fails)
  · exact ofParts_of_fault

private theorem withId?_of_parse (reads : parse text = .ok query) :
    ({ objectType := query.objectType } : ObjectQuery).withId? query.exactId = query := by
  obtain ⟨token, _, _, rfl⟩ := parse_eq_ok_iff.mp reads
  obtain ⟨name, args⟩ := token
  cases args <;> rfl

/-- Parts make a query exactly when the shorthand reads, if there is one, it or a type on its own
supplies the type, but not both, and at most one of them an identifier. The query is the one of that
type and identifier, whichever way they come, so that the parts of a shorthand that reads make the
query that it reads as. Parts that make no query fail with the first of their faults: the
shorthand's own error, then an ambiguous type, then an ambiguous identifier, then a missing type. -/
theorem ofParts_of_supplied (shorthand objectType id : Option String) :
    (∀ query, ofParts shorthand objectType id = .ok query ↔
      (∀ text ∈ shorthand, ∃ read, parse text = .ok read) ∧
        (suppliedIds shorthand id).length ≤ 1 ∧
        ∃ type, suppliedTypes shorthand objectType = [type] ∧
          query = ({ objectType := type } : ObjectQuery).withId? (suppliedIds shorthand id).head?) ∧
    (∀ error, ofParts shorthand objectType id = .error error ↔
      (partFaults shorthand objectType id).head? = some error) ∧
    ∀ text query, parse text = .ok query →
      ofParts (some text) none none = .ok query ∧
        ofParts none (some query.objectType) query.exactId = .ok query := by
  refine ⟨fun query => ofParts_eq_ok_iff, fun error => ofParts_eq_error_iff, ?_⟩
  intro text query reads
  have whole := withId?_of_parse reads
  have read : readOf (some text) = some query := by
    rw [readOf, Option.bind_some, reads]
    rfl
  constructor
  · refine ofParts_eq_ok_iff.mpr ⟨?_, ?_, query.objectType, ?_, ?_⟩
    · rintro _ ⟨⟩
      exact ⟨query, reads⟩
    · rw [suppliedIds, read]
      exact length_supplied_none_right
    · rw [suppliedTypes, read]
      rfl
    · rw [suppliedIds, head?_supplied, read, Option.bind_some, Option.or_none, whole]
  · refine ofParts_eq_ok_iff.mpr ⟨nofun, ?_, query.objectType, rfl, ?_⟩
    · exact length_supplied_none_left
    · rw [suppliedIds, head?_supplied]
      exact whole.symm

/-- An identifier comes in the shorthand or beside it, and a type in both is the first fault. -/
theorem ofParts_of_red :
    parse " [COLOR:RED]" = .ok { objectType := "COLOR", exactId := some "RED" } ∧
      ofParts (some " [COLOR:RED]") none none =
        .ok { objectType := "COLOR", exactId := some "RED" } ∧
      ofParts none (some "COLOR") (some "RED") =
        .ok { objectType := "COLOR", exactId := some "RED" } ∧
      ofParts (some "COLOR") none (some "RED") =
        .ok { objectType := "COLOR", exactId := some "RED" } ∧
      ofParts (some "COLOR:RED") (some "SHAPE") (some "BLUE") =
        .error (.ambiguous .objectType) := by
  have reads : parse " [COLOR:RED]" = .ok { objectType := "COLOR", exactId := some "RED" } := by rfl
  have bare : parse "COLOR" = .ok { objectType := "COLOR" } := by rfl
  obtain ⟨whole, parted⟩ := (ofParts_of_supplied none none none).2.2 _ _ reads
  have beside := ((ofParts_of_supplied (some "COLOR") none (some "RED")).1 _).mpr
    ⟨by rintro _ ⟨⟩; exact ⟨_, bare⟩, by decide, "COLOR", by rfl, rfl⟩
  have twice := ((ofParts_of_supplied (some "COLOR:RED") (some "SHAPE") (some "BLUE")).2.1 _).mpr
    (by rfl : _ = some (.ambiguous .objectType))
  exact ⟨reads, whole, parted, beside, twice⟩

end TokenQuery.ObjectQuery
