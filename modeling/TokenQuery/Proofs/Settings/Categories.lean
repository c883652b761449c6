import TokenQuery.Proofs.Settings.Override
import TokenQuery.Proofs.Token.Grammar

/-!
A variable of the environment for the categories, which are a list. Main statement: settings that
load from a text also load with names joined by commas for the categories, take these names as they
are written and differ in nothing else, unless the text gives the scope rules as a list or a single
name reads as a truth value or a number (`ofToml_categories`). Such a name is refused
(`ofToml_refuses_guessed`).
-/

set_option autoImplicit false

namespace TokenQuery

namespace Decimal

variable {text digits : List Char} {low high : Int}

private theorem any_not_isDigit (comma : ',' ∈ digits) : digits.any (!·.isDigit) = true :=
  List.any_eq_true.mpr ⟨',', comma, rfl⟩

private theorem comma_mem_takeSign (comma : ',' ∈ text) : ',' ∈ (takeSign text).2 := by
  unfold takeSign
  split
  · exact List.mem_of_ne_of_mem (by decide) comma
  · exact List.mem_of_ne_of_mem (by decide) comma
  · exact comma

private theorem comma_mem_dropWhile (comma : ',' ∈ text) : ',' ∈ text.dropWhile Char.isDigit := by
  rw [← List.takeWhile_append_dropWhile (p := Char.isDigit) (l := text), List.mem_append] at comma
  rcases comma with taken | left
  · cases List.mem_takeWhile_imp taken
  · exact left

private theorem comma_mem_lowered {word : String} (comma : ',' ∈ text)
    (same : String.ofList (text.map Char.toLower) = word) : ',' ∈ word.toList := by
  rw [← same, String.toList_ofList]
  exact List.mem_map_of_mem comma

private theorem readInt?_of_comma (comma : ',' ∈ text) : readInt? low high text = none := by
  simp [readInt?, any_not_isDigit (comma_mem_takeSign comma)]

private theorem readExponent?_of_comma (comma : ',' ∈ text) : readExponent? text = none := by
  cases text with
  | nil => cases comma
  | cons c rest =>
    rw [readExponent?]
    split
    · rename_i letter
      have behind : ',' ∈ rest := by
        refine List.mem_of_ne_of_mem ?_ comma
        rcases letter with rfl | rfl <;> decide
      simp [any_not_isDigit (comma_mem_takeSign behind)]
    · rfl

private theorem readFloat?_of_comma (comma : ',' ∈ text) : readFloat? text = none := by
  have body := comma_mem_takeSign comma
  unfold readFloat?
  simp only
  split
  · exact absurd (comma_mem_lowered body ‹_›) (by decide)
  · exact absurd (comma_mem_lowered body ‹_›) (by decide)
  · exact absurd (comma_mem_lowered body ‹_›) (by decide)
  · have behind := comma_mem_dropWhile body
    split
    · rename_i rest point
      rw [point] at behind
      have fraction : ',' ∈ rest := List.mem_of_ne_of_mem (by decide) behind
      simp [readExponent?_of_comma (comma_mem_dropWhile fraction)]
    · simp [readExponent?_of_comma behind]

end Decimal

open Reading in
private theorem Reading.list?_texts (names : List String) :
    list? lenient.text? (.list (names.map .text)) = some names := by
  rw [list?]
  induction names with
  | nil => rfl
  | cons name rest ih =>
    rw [List.map_cons, List.mapM_cons, ih]
    rfl

namespace Environment

variable {given : String} {data : Data} {names : List String}

/-- A text with a comma reads as no number, so that several names are never taken for one. -/
private theorem guessed?_of_comma (comma : ',' ∈ given.toList) : guessed? given = none := by
  unfold guessed?
  split
  · exact absurd (Decimal.comma_mem_lowered comma ‹_›) (by decide)
  · exact absurd (Decimal.comma_mem_lowered comma ‹_›) (by decide)
  · rw [Decimal.readInt?_of_comma comma, Decimal.readFloat?_of_comma comma]
    rfl

private theorem guessed?_cases (guess : guessed? given = some data) :
    (∃ b, data = .bool b) ∨ (∃ n, data = .int n) ∨ ∃ x, data = .float x := by
  unfold guessed? at guess
  split at guess
  · exact .inl ⟨true, (Option.some.inj guess).symm⟩
  · exact .inl ⟨false, (Option.some.inj guess).symm⟩
  · split at guess
    · exact .inr (.inl ⟨_, (Option.some.inj guess).symm⟩)
    · obtain ⟨x, _, rfl⟩ := Option.map_eq_some_iff.mp guess
      exact .inr (.inr ⟨x, rfl⟩)

private theorem ne_table_of_guessed (guess : guessed? given = some data)
    (fields : List (String × Data)) : data ≠ .table fields := by
  rcases guessed?_cases guess with ⟨_, rfl⟩ | ⟨_, rfl⟩ | ⟨_, rfl⟩ <;> nofun

private theorem list?_of_guessed {α : Type} {item? : Data → Option α}
    (guess : guessed? given = some data) : Reading.list? item? data = none := by
  rcases guessed?_cases guess with ⟨_, rfl⟩ | ⟨_, rfl⟩ | ⟨_, rfl⟩ <;> rfl

private theorem value_categories (some_name : names ≠ [])
    (commaless : ∀ name ∈ names, ',' ∉ name.toList)
    (unguessed : ∀ name, names = [name] → guessed? name = none) :
    value "scope.categories" (Text.joined ',' names) = .list (names.map .text) := by
  have listed : listPaths.contains "scope.categories" = true := by decide
  have split : Text.parts ',' (Text.joined ',' names) = names :=
    Text.parts_eq_iff.mpr ⟨some_name, commaless, rfl⟩
  have noGuess : guessed? (Text.joined ',' names) = none := by
    by_cases comma : ',' ∈ (Text.joined ',' names).toList
    · exact guessed?_of_comma comma
    · have whole : Text.parts ',' (Text.joined ',' names) = [Text.joined ',' names] :=
        Text.parts_eq_iff.mpr ⟨by simp, by simpa using comma, by simp [Text.joined]⟩
      exact unguessed _ (split.symm.trans whole)
  rw [value, noGuess, if_pos listed, split]
  rfl

end Environment

namespace Decode

open Reading

variable {group : Option Data} {value : Data}

private theorem scopeRules?_withCategories {names : List String} {rules : ScopeRules}
    (before : fieldOr .standard (scopeRules? .lenient) group = some rules)
    (reads : list? lenient.text? value = some names) :
    scopeRules? .lenient (Data.withField "categories" value group) =
      some ⟨if group.any Data.isList then ScopeRules.standard.itemPrefix else rules.itemPrefix,
        names⟩ := by
  obtain ⟨_, _, rfl, _, after⟩ :=
    group?_withField ScopeRules.mk itemPrefix categories (by decide) before
  exact after value names reads

private theorem scopeRules?_of_misread (misread : list? lenient.text? value = none) :
    scopeRules? .lenient (Data.withField "categories" value group) = none := by
  refine Option.eq_none_iff_forall_ne_some.mpr fun rules reads => ?_
  obtain ⟨_, _, _, second, _⟩ :=
    (group?_table_eq_some_iff ScopeRules.mk itemPrefix categories).mp reads
  have named : categories.name = "categories" := rfl
  rw [named, Entries.lookup_set_self] at second
  cases misread.symm.trans second

end Decode

namespace Settings

variable {text : String} {settings : Settings}

private theorem path_categories :
    KeyPath.ofName "scope.categories" = ⟨"scope", [.key "categories"]⟩ := by
  decide

/-- Settings that load from a text load with a variable for the categories as well. The categories
are then the names that the variable joins by commas, as they are written: those that look like
numbers or truth values, empty ones and the blanks around them are kept. The resolver and the
queries are as before, and so is the item prefix; where the text gives the scope rules as a list it
is the standard one. A name on its own must not read as a truth value or a number. -/
theorem ofToml_categories (text : String) (settings : Settings)
    (loads : (ofToml text []).result = .ok settings) (names : List String) (some_name : names ≠ [])
    (commaless : ∀ name ∈ names, ',' ∉ name.toList)
    (unguessed : ∀ name, names = [name] → Environment.guessed? name = none) :
    (ofToml text [("RAWQUERY__SCOPE__CATEGORIES", Text.joined ',' names)]).result =
      .ok { settings with scope :=
        ⟨if givesList text "scope" then ScopeRules.standard.itemPrefix
          else settings.scope.itemPrefix, names⟩ } := by
  have named : Environment.settings [("RAWQUERY__SCOPE__CATEGORIES", Text.joined ',' names)] =
      [("scope.categories", .list (names.map .text))] := by
    rw [← Environment.value_categories some_name commaless unguessed]
    rfl
  refine ofToml_of_setting loads named path_categories nofun fun fields gives before => ?_
  obtain ⟨scope, _, _⟩ := Decode.settings?_table_eq_some_iff.mp before
  rw [gives]
  exact Decode.settings?_update_scope before
    (Decode.scopeRules?_withCategories scope (Reading.list?_texts names))

/-- A variable for the categories with one name that reads as a truth value or a number is no list,
so that no text loads with it. -/
theorem ofToml_refuses_guessed (loads : (ofToml text []).result = .ok settings) {name : String}
    {data : Data} (guess : Environment.guessed? name = some data) :
    (ofToml text [("RAWQUERY__SCOPE__CATEGORIES", name)]).result =
      .error (.settings .mistyped) := by
  obtain ⟨document, reads, _⟩ := ofToml_eq_ok_iff.mp loads
  obtain ⟨fields, base⟩ := exists_layered_eq document []
  have named : Environment.settings [("RAWQUERY__SCOPE__CATEGORIES", name)] =
      [("scope.categories", data)] := by
    have value : Environment.value "scope.categories" name = data := by
      rw [Environment.value, guess]
      rfl
    rw [← value]
    rfl
  have plain := Environment.ne_table_of_guessed guess
  have misread : Decode.settings? .lenient
      (layered document [("RAWQUERY__SCOPE__CATEGORIES", name)]) = none := by
    rw [layered_of_setting named path_categories plain, base]
    refine Option.eq_none_iff_forall_ne_some.mpr fun settings reads => ?_
    obtain ⟨scope, _, _⟩ := Decode.settings?_table_eq_some_iff.mp reads
    rw [Entries.lookup_update_self] at scope
    cases (Decode.scopeRules?_of_misread (Environment.list?_of_guessed guess)).symm.trans scope
  rw [ofToml, reads]
  simp only [ofDocument, misread]
  rfl

private def prefixed : String := "objects.sentinel = 'ROOT'\n[scope]\nitem_prefix = 'I_'"

private theorem ofToml_prefixed :
    (ofToml prefixed []).result =
      .ok { scope := { itemPrefix := "I_" }, objects := { sentinel := "ROOT" } } :=
  eq_ok_of_rules (by decide +kernel)

/-- A number, a truth value, a name with blanks and an empty one are four names, and a number with a
blank in front of it is one on its own. -/
theorem ofToml_categories_prefixed :
    (ofToml prefixed []).result =
        .ok { scope := { itemPrefix := "I_" }, objects := { sentinel := "ROOT" } } ∧
      (∀ name ∈ ["007", "true", " B ", ""], ',' ∉ name.toList) ∧
      Text.joined ',' ["007", "true", " B ", ""] = "007,true, B ," ∧
      (ofToml prefixed [("RAWQUERY__SCOPE__CATEGORIES", "007,true, B ,")]).result =
        .ok { scope := ⟨"I_", ["007", "true", " B ", ""]⟩, objects := { sentinel := "ROOT" } } ∧
      Environment.guessed? " 7" = none ∧
      (ofToml prefixed [("RAWQUERY__SCOPE__CATEGORIES", " 7")]).result =
        .ok { scope := ⟨"I_", [" 7"]⟩, objects := { sentinel := "ROOT" } } := by
  have commaless : ∀ name ∈ ["007", "true", " B ", ""], ',' ∉ name.toList := by decide
  have joined : Text.joined ',' ["007", "true", " B ", ""] = "007,true, B ," := by decide
  have table : givesList prefixed "scope" = false := by decide +kernel
  have unguessed : Environment.guessed? " 7" = none := by rfl
  have loaded := ofToml_categories prefixed _ ofToml_prefixed _ (by decide) commaless (by simp)
  rw [joined, table] at loaded
  have alone := ofToml_categories prefixed _ ofToml_prefixed [" 7"] (by decide) (by decide)
    (by rintro name ⟨⟩; exact unguessed)
  rw [(by decide : Text.joined ',' [" 7"] = " 7"), table] at alone
  exact ⟨ofToml_prefixed, commaless, joined, loaded, unguessed, alone⟩

private def listedScope : String := "scope = ['P', ['A']]"

/-- Scope rules that the text gives as a list do not keep their item prefix, and a single name that
reads as a number is not taken. -/
theorem categories_not_always_taken :
    ((ofToml listedScope []).result = .ok { scope := ⟨"P", ["A"]⟩ } ∧
      (ofToml listedScope [("RAWQUERY__SCOPE__CATEGORIES", "X,Y")]).result ≠
        .ok { scope := ⟨"P", ["X", "Y"]⟩ }) ∧
    ((ofToml "" []).result = .ok {} ∧
      (ofToml "" [("RAWQUERY__SCOPE__CATEGORIES", "7")]).result ≠
        .ok { scope := { categories := ["7"] } }) := by
  refine ⟨⟨eq_ok_of_rules (by decide +kernel), fun same => ?_⟩, rfl, fun same => ?_⟩
  · have lost : ((ofToml listedScope [("RAWQUERY__SCOPE__CATEGORIES", "X,Y")]).result.toOption.map
        (·.scope.itemPrefix)) = some "ITEM_" := by
      decide +kernel
    rw [same] at lost
    exact absurd lost (by decide)
  · have guess : Environment.guessed? "7" = some (.int 7) := by rfl
    have loads : (ofToml "" []).result = .ok {} := rfl
    cases (ofToml_refuses_guessed loads guess).symm.trans same

end Settings

end TokenQuery
