import TokenQuery.Proofs.Settings.Taken

/-!
A variable of the environment laid over settings. Main statement: settings that load from a text
also load with a variable for the sentinel or for the item prefix, and differ in that setting only,
unless the text gives its group as a list (`ofToml_override`).
-/

set_option autoImplicit false

namespace TokenQuery

namespace Data

/-- The value is a list. -/
def isList : Data → Bool
  | .list _ => true
  | _ => false

/-- A group of settings after one of them is set. What is no table gives place to one. -/
def withField (field : String) (value : Data) (group : Option Data) : Data :=
  .table (Entries.set field value (group.getD .null).fields)

variable {old value : Data} {root field : String}

private theorem overlay_of_ne_table (plain : ∀ fields, value ≠ .table fields) :
    old.overlay value = value := by
  cases value with
  | table fields => exact absurd rfl (plain fields)
  | null | bool | int | float | text | list => rfl

private theorem overlayAt_field (plain : ∀ fields, value ≠ .table fields) :
    old.overlayAt ⟨root, [.key field]⟩ value =
      .table (Entries.update root (withField field value) old.fields) := by
  simp only [overlayAt, changeAt, overlay_of_ne_table plain]
  rfl

end Data

namespace Decode

open Reading

/-- A setting of a group: its name, its default and how it is read. -/
structure Part (α : Type) where
  name : String
  default : α
  read? : Data → Option α

/-- The value of a setting that may be missing. -/
def Part.value? {α : Type} (part : Part α) : Option Data → Option α :=
  fieldOr part.default part.read?

/-- A group of two settings. -/
def group? {α β γ : Type} (make : α → β → γ) (reading : Reading) (first : Part α) (second : Part β)
    (data : Data) : Option γ := do
  let field ← reading.record? data
  return make (← first.value? (field 0 first.name)) (← second.value? (field 1 second.name))

/-- The item prefix among the scope rules. -/
def itemPrefix : Part String := ⟨"item_prefix", ScopeRules.standard.itemPrefix, lenient.text?⟩

/-- The categories among the scope rules. -/
def categories : Part (List String) :=
  ⟨"categories", ScopeRules.standard.categories, list? lenient.text?⟩

/-- The sentinel of a resolver. -/
def sentinel : Part String := ⟨"sentinel", Resolver.standard.sentinel, lenient.text?⟩

/-- The type rules of a resolver. -/
def typeRules : Part (List TypeRule) :=
  ⟨"rules", Resolver.standard.rules, list? (typeRule? .lenient)⟩

section Group

variable {α β γ : Type} (make : α → β → γ) (first : Part α) (second : Part β) {c : γ}
  {fields : List (String × Data)} {group : Option Data}

theorem group?_table_eq_some_iff :
    group? make .lenient first second (.table fields) = some c ↔
      ∃ a b, first.value? (fields.lookup first.name) = some a ∧
        second.value? (fields.lookup second.name) = some b ∧ make a b = c := by
  simp only [group?, record?, Option.bind_eq_bind, Option.bind_some, Option.bind_eq_some_iff,
    Option.pure_def, Option.some.injEq]
  constructor
  · rintro ⟨a, left, b, right, made⟩
    exact ⟨a, b, left, right, made⟩
  · rintro ⟨a, b, left, right, made⟩
    exact ⟨a, left, b, right, made⟩

private theorem exists_values_of_group?
    (before :
      fieldOr (make first.default second.default) (group? make .lenient first second) group =
      some c) :
    ∃ a b, make a b = c ∧
      first.value? ((group.getD .null).fields.lookup first.name) =
        some (if group.any Data.isList then first.default else a) ∧
      second.value? ((group.getD .null).fields.lookup second.name) =
        some (if group.any Data.isList then second.default else b) := by
  cases group with
  | none => exact ⟨first.default, second.default, Option.some.inj before, rfl, rfl⟩
  | some data =>
    cases data with
    | table fields =>
      obtain ⟨a, b, left, right, made⟩ := (group?_table_eq_some_iff make first second).mp before
      exact ⟨a, b, made, left, right⟩
    | list items =>
      simp only [fieldOr, group?, record?, if_true, Option.bind_eq_bind, Option.bind_some,
        Option.bind_eq_some_iff, Option.pure_def, Option.some.injEq] at before
      obtain ⟨a, _, b, _, made⟩ := before
      exact ⟨a, b, made, rfl, rfl⟩
    | null | bool | int | float | text => cases before

/-- After one setting of a group is set, the other one is as before. Only where the group was a list
it is missing, since a list gives place to a table. -/
theorem group?_withField (apart : first.name ≠ second.name)
    (before :
      fieldOr (make first.default second.default) (group? make .lenient first second) group =
      some c) :
    ∃ a b, make a b = c ∧
      (∀ value written, first.read? value = some written →
        group? make .lenient first second (Data.withField first.name value group) =
          some (make written (if group.any Data.isList then second.default else b))) ∧
      ∀ value written, second.read? value = some written →
        group? make .lenient first second (Data.withField second.name value group) =
          some (make (if group.any Data.isList then first.default else a) written) := by
  obtain ⟨a, b, made, left, right⟩ := exists_values_of_group? make first second before
  refine ⟨a, b, made, ?_, ?_⟩
  · intro value written reads
    rw [Data.withField, group?_table_eq_some_iff, Entries.lookup_set_self,
      Entries.lookup_set_of_ne apart.symm]
    exact ⟨written, _, reads, right, rfl⟩
  · intro value written reads
    rw [Data.withField, group?_table_eq_some_iff, Entries.lookup_set_self,
      Entries.lookup_set_of_ne apart]
    exact ⟨_, written, left, reads, rfl⟩

end Group

variable {group : Option Data} {value : Data} {written : String}

private theorem scopeRules?_withField {rules : ScopeRules}
    (before : fieldOr .standard (scopeRules? .lenient) group = some rules)
    (reads : lenient.text? value = some written) :
    scopeRules? .lenient (Data.withField "item_prefix" value group) =
      some ⟨written, if group.any Data.isList then ScopeRules.standard.categories
        else rules.categories⟩ := by
  obtain ⟨_, _, rfl, after, _⟩ :=
    group?_withField ScopeRules.mk itemPrefix categories (by decide) before
  exact after value written reads

private theorem resolver?_withField {resolver : Resolver}
    (before : fieldOr .standard (resolver? .lenient) group = some resolver)
    (reads : lenient.text? value = some written) :
    resolver? .lenient (Data.withField "sentinel" value group) =
      some ⟨written, if group.any Data.isList then Resolver.standard.rules
        else resolver.rules⟩ := by
  obtain ⟨_, _, rfl, after, _⟩ :=
    group?_withField Resolver.mk sentinel typeRules (by decide) before
  exact after value written reads

theorem settings?_table_eq_some_iff {fields : List (String × Data)} {settings : Settings} :
    settings? .lenient (.table fields) = some settings ↔
      fieldOr .standard (scopeRules? .lenient) (fields.lookup "scope") = some settings.scope ∧
      fieldOr .standard (resolver? .lenient) (fields.lookup "objects") = some settings.objects ∧
      fieldOr [] (queries? .lenient) (fields.lookup "queries") = some settings.queries := by
  simp only [settings?, record?, Option.bind_eq_bind, Option.bind_some, Option.bind_eq_some_iff,
    Option.pure_def, Option.some.injEq]
  constructor
  · rintro ⟨scope, readsScope, objects, readsObjects, queries, readsQueries, rfl⟩
    exact ⟨readsScope, readsObjects, readsQueries⟩
  · rintro ⟨readsScope, readsObjects, readsQueries⟩
    exact ⟨_, readsScope, _, readsObjects, _, readsQueries, rfl⟩

section Update

variable {fields : List (String × Data)} {settings : Settings} {change : Option Data → Data}

theorem settings?_update_scope {rules : ScopeRules}
    (before : settings? .lenient (.table fields) = some settings)
    (changed : scopeRules? .lenient (change (fields.lookup "scope")) = some rules) :
    settings? .lenient (.table (Entries.update "scope" change fields)) =
      some { settings with scope := rules } := by
  obtain ⟨_, objects, queries⟩ := settings?_table_eq_some_iff.mp before
  refine settings?_table_eq_some_iff.mpr ⟨?_, ?_, ?_⟩
  · rw [Entries.lookup_update_self]
    exact changed
  · rw [Entries.lookup_update_of_ne (by decide), objects]
  · rw [Entries.lookup_update_of_ne (by decide), queries]

private theorem settings?_update_objects {resolver : Resolver}
    (before : settings? .lenient (.table fields) = some settings)
    (changed : resolver? .lenient (change (fields.lookup "objects")) = some resolver) :
    settings? .lenient (.table (Entries.update "objects" change fields)) =
      some { settings with objects := resolver } := by
  obtain ⟨scope, _, queries⟩ := settings?_table_eq_some_iff.mp before
  refine settings?_table_eq_some_iff.mpr ⟨?_, ?_, ?_⟩
  · rw [Entries.lookup_update_of_ne (by decide), scope]
  · rw [Entries.lookup_update_self]
    exact changed
  · rw [Entries.lookup_update_of_ne (by decide), queries]

end Update

end Decode

namespace Settings

variable {text name root field : String} {settings : Settings} {document value : Data}
  {overrides : List (String × String)}

theorem ofToml_eq_ok_iff :
    (ofToml text overrides).result = .ok settings ↔
      ∃ document, Toml.read? text = some document ∧
        Decode.settings? .lenient (layered document overrides) = some settings := by
  rw [ofToml]
  cases Toml.read? text with
  | none => simp [Traced.fail]
  | some document =>
    simp only [Option.some.injEq, exists_eq_left', ofDocument]
    cases Decode.settings? .lenient (layered document overrides) with
    | none => simp [Traced.fail]
    | some other => simp [Traced.note, bind, pure]

private theorem exists_foldl_overlayAt_eq (entries : List (String × Data))
    (fields : List (String × Data)) :
    ∃ fields', entries.foldl (fun data (name, value) => Data.overlayAt data (.ofName name) value)
      (Data.table fields) = .table fields' := by
  induction entries generalizing fields with
  | nil => exact ⟨fields, rfl⟩
  | cons entry rest ih => exact ih _

theorem exists_layered_eq (document : Data) (overrides : List (String × String)) :
    ∃ fields, layered document overrides = .table fields :=
  exists_foldl_overlayAt_eq _ _

/-- A variable for a setting of a group changes that setting in its group, and nothing else. -/
theorem layered_of_setting (named : Environment.settings overrides = [(name, value)])
    (path : KeyPath.ofName name = ⟨root, [.key field]⟩) (plain : ∀ fields, value ≠ .table fields) :
    layered document overrides =
      .table (Entries.update root (Data.withField field value) (layered document []).fields) := by
  rw [← Data.overlayAt_field plain, ← path, layered, named, List.foldl_append, layered]
  simp [Environment.settings]

/-- The text gives a group of settings as a list, whose items stand for its settings in order. -/
def givesList (text group : String) : Bool :=
  (Toml.read? text).any fun document =>
    ((layered document []).fields.lookup group).any Data.isList

theorem ofToml_of_setting {settings' : Settings} (loads : (ofToml text []).result = .ok settings)
    (named : Environment.settings overrides = [(name, value)])
    (path : KeyPath.ofName name = ⟨root, [.key field]⟩) (plain : ∀ fields, value ≠ .table fields)
    (changes : ∀ fields, givesList text root = (fields.lookup root).any Data.isList →
      Decode.settings? .lenient (.table fields) = some settings →
      Decode.settings? .lenient (.table (Entries.update root (Data.withField field value) fields)) =
        some settings') :
    (ofToml text overrides).result = .ok settings' := by
  obtain ⟨document, reads, before⟩ := ofToml_eq_ok_iff.mp loads
  obtain ⟨fields, base⟩ := exists_layered_eq document []
  refine ofToml_eq_ok_iff.mpr ⟨document, reads, ?_⟩
  rw [layered_of_setting named path plain, base]
  refine changes fields ?_ (base ▸ before)
  rw [givesList, reads, Option.any_some, base]
  rfl

/-- Settings that load from a text load with a variable for the sentinel or for the item prefix as
well. That setting is then the text taken from the value, and the others are as before; where the
text gives the group as a list, the other setting of the group is the standard one. The value is
taken as it is written when it is a text without digits and no word for a truth value or a number,
and when it is a whole number of 64 bits in its shortest form. -/
theorem ofToml_override (text : String) (settings : Settings)
    (loads : (ofToml text []).result = .ok settings) (value : String) :
    (ofToml text [("RAWQUERY__OBJECTS__SENTINEL", value)]).result =
      .ok { settings with objects :=
        ⟨Environment.taken value,
          if givesList text "objects" then Resolver.standard.rules else settings.objects.rules⟩ } ∧
    (ofToml text [("RAWQUERY__SCOPE__ITEM_PREFIX", value)]).result =
      .ok { settings with scope :=
        ⟨Environment.taken value,
          if givesList text "scope" then ScopeRules.standard.categories
          else settings.scope.categories⟩ } ∧
    (value.toList.any Char.isDigit = false → Environment.isWord value = false →
      Environment.taken value = value) ∧
    ∀ n : Int, Decimal.leastSigned ≤ n → n ≤ Decimal.greatestSigned →
      Environment.taken (toString n) = toString n := by
  have sentinelReads := Environment.text?_value "objects.sentinel" value (by decide)
  have itemPrefixReads := Environment.text?_value "scope.item_prefix" value (by decide)
  have sentinel : KeyPath.ofName "objects.sentinel" = ⟨"objects", [.key "sentinel"]⟩ := by decide
  have itemPrefix : KeyPath.ofName "scope.item_prefix" = ⟨"scope", [.key "item_prefix"]⟩ := by
    decide
  have namedSentinel : Environment.settings [("RAWQUERY__OBJECTS__SENTINEL", value)] =
      [("objects.sentinel", Environment.value "objects.sentinel" value)] := rfl
  have namedItemPrefix : Environment.settings [("RAWQUERY__SCOPE__ITEM_PREFIX", value)] =
      [("scope.item_prefix", Environment.value "scope.item_prefix" value)] := rfl
  refine ⟨?_, ?_, Environment.taken_of_no_digit, fun n => Environment.taken_toString⟩
  · have plain := Environment.ne_table_of_text? sentinelReads
    refine ofToml_of_setting loads namedSentinel sentinel plain fun fields gives before => ?_
    obtain ⟨_, objects, _⟩ := Decode.settings?_table_eq_some_iff.mp before
    rw [gives]
    exact Decode.settings?_update_objects before (Decode.resolver?_withField objects sentinelReads)
  · have plain := Environment.ne_table_of_text? itemPrefixReads
    refine ofToml_of_setting loads namedItemPrefix itemPrefix plain fun fields gives before => ?_
    obtain ⟨scope, _, _⟩ := Decode.settings?_table_eq_some_iff.mp before
    rw [gives]
    exact Decode.settings?_update_scope before (Decode.scopeRules?_withField scope itemPrefixReads)

private def dotted : String := "scope.item_prefix = 'I_'\nobjects.rules = []"

theorem eq_ok_of_rules {loaded : Except QueryError Settings} {scope : ScopeRules}
    {objects : Resolver}
    (rules : loaded.toOption.map (fun settings =>
      (settings.scope, settings.objects, settings.queries.isEmpty)) = some (scope, objects, true)) :
    loaded = .ok { scope, objects } := by
  cases loaded with
  | error error => cases rules
  | ok settings =>
    obtain ⟨_, _, _⟩ := settings
    simp only [Except.toOption, Option.map_some, Option.some.injEq, Prod.mk.injEq,
      List.isEmpty_iff] at rules
    obtain ⟨rfl, rfl, rfl⟩ := rules
    rfl

private theorem ofToml_dotted :
    (ofToml dotted []).result =
      .ok { scope := { itemPrefix := "I_" }, objects := { rules := [] } } :=
  eq_ok_of_rules (by decide +kernel)

/-- A word is taken as it is, a number is written anew, and the settings of the text stay. -/
theorem ofToml_override_dotted :
    (ofToml dotted []).result =
        .ok { scope := { itemPrefix := "I_" }, objects := { rules := [] } } ∧
      (ofToml dotted [("RAWQUERY__OBJECTS__SENTINEL", "ROOT")]).result =
        .ok { scope := { itemPrefix := "I_" }, objects := ⟨"ROOT", []⟩ } ∧
      (ofToml dotted [("RAWQUERY__SCOPE__ITEM_PREFIX", "007")]).result =
        .ok { scope := { itemPrefix := "7" }, objects := { rules := [] } } ∧
      Environment.taken (toString (-7 : Int)) = toString (-7 : Int) := by
  have objects : givesList dotted "objects" = false := by decide +kernel
  have scope : givesList dotted "scope" = false := by decide +kernel
  have anew : Environment.taken "007" = "7" := by decide
  obtain ⟨sentinel, _, word, _⟩ := ofToml_override dotted _ ofToml_dotted "ROOT"
  obtain ⟨_, itemPrefix, _, number⟩ := ofToml_override dotted _ ofToml_dotted "007"
  rw [word rfl rfl, objects] at sentinel
  rw [anew, scope] at itemPrefix
  exact ⟨ofToml_dotted, sentinel, itemPrefix, number (-7) (by decide) (by decide)⟩

private def listed : String := "objects = ['HEADER', []]"

private theorem ofToml_listed : (ofToml listed []).result = .ok { objects := ⟨"HEADER", []⟩ } :=
  eq_ok_of_rules (by decide +kernel)

/-- A variable does not give every value as it is written, and a group that the text gives as a list
does not keep its other setting. -/
theorem override_not_verbatim :
    ((ofToml "" []).result = .ok {} ∧
      (ofToml "" [("RAWQUERY__OBJECTS__SENTINEL", "007")]).result ≠
        .ok { objects := { sentinel := "007" } }) ∧
    ((ofToml listed []).result = .ok { objects := ⟨"HEADER", []⟩ } ∧
      (ofToml listed [("RAWQUERY__OBJECTS__SENTINEL", "ROOT")]).result ≠
        .ok { objects := ⟨"ROOT", []⟩ }) := by
  refine ⟨⟨rfl, fun same => ?_⟩, ofToml_listed, fun same => ?_⟩
  · have taken : ((ofToml "" [("RAWQUERY__OBJECTS__SENTINEL", "007")]).result.toOption.map
        (·.objects.sentinel)) = some "7" := by
      decide +kernel
    rw [same] at taken
    exact absurd taken (by decide)
  · have lost : ((ofToml listed [("RAWQUERY__OBJECTS__SENTINEL", "ROOT")]).result.toOption.map
        (·.objects.rules)) = some Resolver.standard.rules := by
      decide +kernel
    rw [same] at lost
    exact absurd lost (by decide)

end Settings

end TokenQuery
