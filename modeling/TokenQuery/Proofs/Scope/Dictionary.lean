import Mathlib.Data.List.Induction
import TokenQuery.Proofs.Scope.Records
import TokenQuery.Scope.Dictionary

/-!
Dictionaries of properties. Main statement: the dictionary of an owner has for every name and every
signature of its properties, as far as the options make them keys, the properties with the key in
the order of the pass, each slot once (`dict_groups_properties`).
-/

set_option autoImplicit false

namespace TokenQuery

namespace Handle

variable {a b : Handle}

private theorem sameSlot_of_index_lt (lower : a.index < b.index) : a.sameSlot b = false := by
  have differ : (a.index == b.index) = false := by
    rw [beq_eq_false_iff_ne]
    exact Nat.ne_of_lt lower
  rw [sameSlot, differ, Bool.and_false]

private theorem pairwise_slots_tokens (handle : Handle) (traversal : Traversal) :
    (Scannable.tokens handle traversal).Pairwise fun a b => a.sameSlot b = false := by
  have ordered : handle.source.handles.Pairwise fun a b => a.sameSlot b = false :=
    handle.source.pairwise_index_handles.imp sameSlot_of_index_lt
  rw [tokens_eq]
  refine List.Pairwise.sublist (traversal.limited_sublist _) ?_
  split
  · rw [List.pairwise_reverse]
    refine (ordered.sublist (List.take_sublist _ _)).imp ?_
    intro a b differ
    rw [sameSlot_comm]
    exact differ
  · exact ordered.sublist (List.drop_sublist _ _)

end Handle

/-- The options make the text a key of the token: its name or its signature, or both. -/
def PropDictOptions.Keys (options : PropDictOptions) (token : Token) (key : String) : Prop :=
  (options.nameKeys = true ∧ token.name = key) ∨ (options.fullKeys = true ∧ token.signature = key)

instance (options : PropDictOptions) (token : Token) (key : String) :
    Decidable (options.Keys token key) :=
  inferInstanceAs (Decidable (_ ∨ _))

private theorem PropDictOptions.mem_keys_iff {options : PropDictOptions} {token : Token}
    {key : String} :
    key ∈ options.keys token ↔ options.Keys token key := by
  have listed (used : Bool) (text : String) :
      key ∈ (if used then [text] else []) ↔ used = true ∧ text = key := by
    cases used <;> simp [eq_comm]
  rw [keys, List.mem_append, listed, listed, Keys]

/-- The properties with a key, in their order. -/
def PropDictOptions.having (options : PropDictOptions) (key : String) (properties : List Handle) :
    List Handle :=
  properties.filter fun prop => options.Keys prop.token key

private theorem PropDictOptions.having_append_singleton (options : PropDictOptions) (key : String)
    (properties : List Handle) (prop : Handle) :
    options.having key (properties ++ [prop]) =
      options.having key properties ++ if options.Keys prop.token key then [prop] else [] := by
  by_cases keyed : options.Keys prop.token key <;> simp [having, keyed]

namespace PropValue

/-- The value that holds some properties, if there are any. -/
def ofList? (alwaysList : Bool) : List Handle → Option PropValue
  | [] => none
  | [prop] => some (if alwaysList then .many [prop] else .one prop)
  | first :: second :: rest => some (.many (first :: second :: rest))

/-- A value, if there is one, with a property included. A slot is kept once. -/
def including (alwaysList : Bool) (prop : Handle) : Option PropValue → PropValue
  | none => if alwaysList then .many [prop] else .one prop
  | some value => if value.contains prop then value else value.push prop

variable {alwaysList : Bool} {prop : Handle} {props : List Handle} {value : PropValue}

private theorem contains_including (alwaysList : Bool) (prop : Handle) (value : Option PropValue) :
    (including alwaysList prop value).contains prop = true := by
  cases value with
  | none => cases alwaysList <;> simp [including, contains, toList, Handle.sameSlot_refl]
  | some value =>
    rw [including]
    split
    · assumption
    · simp [contains, Handle.sameSlot_refl]

private theorem including_including (alwaysList : Bool) (prop : Handle) (value : Option PropValue) :
    including alwaysList prop (some (including alwaysList prop value)) =
      including alwaysList prop value :=
  if_pos (contains_including alwaysList prop value)

theorem getD_toList_ofList? (alwaysList : Bool) (props : List Handle) :
    ((ofList? alwaysList props).map toList).getD [] = props := by
  match props with
  | [] | _ :: _ :: _ => rfl
  | [prop] => cases alwaysList <;> rfl

private theorem toList_of_ofList? (made : ofList? alwaysList props = some value) :
    value.toList = props := by
  have held := getD_toList_ofList? alwaysList props
  rw [made] at held
  exact held

private theorem ofList?_isSome_iff : (ofList? alwaysList props).isSome = true ↔ props ≠ [] := by
  match props with
  | [] => simp [ofList?]
  | [_] | _ :: _ :: _ => simp [ofList?]

private theorem eq_one_iff_of_ofList? (made : ofList? alwaysList props = some value) :
    (∃ prop, value = .one prop) ↔ alwaysList = false ∧ ∃ prop, props = [prop] := by
  match props with
  | [] => cases made
  | [prop] =>
    obtain rfl := Option.some.inj made
    cases alwaysList <;> simp
  | first :: second :: rest =>
    obtain rfl := Option.some.inj made
    simp

private theorem including_ofList? (fresh : ∀ other ∈ props, other.sameSlot prop = false) :
    some (including alwaysList prop (ofList? alwaysList props)) =
      ofList? alwaysList (props ++ [prop]) := by
  have absent (value : PropValue) (holds : value.toList = props) :
      including alwaysList prop (some value) = value.push prop := by
    refine if_neg ?_
    rw [contains, holds, List.any_eq_true]
    rintro ⟨other, member, same⟩
    rw [fresh other member] at same
    cases same
  match props with
  | [] => rfl
  | [first] =>
    rw [ofList?, absent]
    · cases alwaysList <;> rfl
    · cases alwaysList <;> rfl
  | first :: second :: rest =>
    rw [ofList?, absent _ rfl]
    rfl

end PropValue

namespace PropDict

variable {alwaysList : Bool} {prop : Handle} {options : PropDictOptions} {dict : PropDict}
  {properties : List Handle}

private theorem add_eq_update (alwaysList : Bool) (prop : Handle) (key : String) (dict : PropDict) :
    add alwaysList prop key dict =
      Entries.update key (PropValue.including alwaysList prop) dict := by
  refine congrArg (Entries.update key · dict) ?_
  funext value
  cases value <;> rfl

private theorem get?_foldl_add (keys : List String) (dict : PropDict) (key : String) :
    get? (keys.foldl (fun dict key => add alwaysList prop key dict) dict) key =
      if key ∈ keys then some (PropValue.including alwaysList prop (dict.get? key))
      else dict.get? key := by
  -- The induction is on the keys, and a key that comes again changes nothing.
  induction keys generalizing dict with
  | nil => rfl
  | cons first rest ih =>
    rw [List.foldl_cons, ih, add_eq_update]
    by_cases same : key = first
    · subst same
      have here : get? (Entries.update key (PropValue.including alwaysList prop) dict) key =
          some (PropValue.including alwaysList prop (dict.get? key)) :=
        Entries.lookup_update_self _ _ _
      rw [here, PropValue.including_including, ite_self, if_pos (.head _)]
    · have there : get? (Entries.update first (PropValue.including alwaysList prop) dict) key =
          dict.get? key :=
        Entries.lookup_update_of_ne same _ _
      rw [there]
      simp only [List.mem_cons, same, false_or]

private theorem ofProps_append_singleton (options : PropDictOptions) (properties : List Handle)
    (prop : Handle) :
    ofProps options (properties ++ [prop]) =
      (options.keys prop.token).foldl (fun dict key => add options.alwaysList prop key dict)
        (ofProps options properties) := by
  rw [ofProps, List.foldl_append]
  rfl

/-- Each key has the properties with this key. The induction is on the properties from their end,
since the last of them is added to what those before it have made. -/
theorem get?_ofProps (slots : properties.Pairwise fun a b => a.sameSlot b = false)
    (key : String) :
    (ofProps options properties).get? key =
      PropValue.ofList? options.alwaysList (options.having key properties) := by
  induction properties using List.reverseRecOn with
  | nil => rfl
  | append_singleton properties prop ih =>
    obtain ⟨earlier, -, last⟩ := List.pairwise_append.mp slots
    rw [ofProps_append_singleton, get?_foldl_add, ih earlier,
      PropDictOptions.having_append_singleton]
    by_cases keyed : options.Keys prop.token key
    · have fresh : ∀ other ∈ options.having key properties, other.sameSlot prop = false := by
        intro other member
        exact last other (List.mem_of_mem_filter member) prop (List.mem_singleton.mpr rfl)
      rw [if_pos (PropDictOptions.mem_keys_iff.mpr keyed), if_pos keyed,
        PropValue.including_ofList? fresh]
    · rw [if_neg (mt PropDictOptions.mem_keys_iff.mp keyed), if_neg keyed, List.append_nil]

private theorem nodup_keys_foldl_add {keys : List String} (once : (dict.map (·.1)).Nodup) :
    ((keys.foldl (fun dict key => add alwaysList prop key dict) dict).map (·.1)).Nodup := by
  induction keys generalizing dict with
  | nil => exact once
  | cons first rest ih =>
    rw [List.foldl_cons]
    exact ih (Entries.nodup_map_fst_update once _ _)

private theorem nodup_keys_ofProps (options : PropDictOptions) (properties : List Handle) :
    ((ofProps options properties).map (·.1)).Nodup := by
  induction properties using List.reverseRecOn with
  | nil => exact List.nodup_nil
  | append_singleton properties prop ih =>
    rw [ofProps_append_singleton]
    exact nodup_keys_foldl_add ih

/-- A dictionary has the keys of some properties, each once, and under each key the properties with
the key in their order, each slot once. A value is a single property when only one property has the
key and lists are not asked for; else it is a list. -/
structure Groups (options : PropDictOptions) (properties : List Handle) (dict : PropDict) :
    Prop where
  keys_once : (dict.map (·.1)).Nodup
  mem_keys_iff : ∀ key, key ∈ dict.map (·.1) ↔ ∃ prop ∈ properties, options.Keys prop.token key
  toList_eq : ∀ key value, dict.get? key = some value →
    value.toList = options.having key properties
  slots_once : ∀ key value, dict.get? key = some value →
    value.toList.Pairwise fun a b => a.sameSlot b = false
  eq_one_iff : ∀ key value, dict.get? key = some value →
    ((∃ prop, value = .one prop) ↔
      options.alwaysList = false ∧ ∃ prop, options.having key properties = [prop])

private theorem mem_keys_iff_isSome (dict : PropDict) (key : String) :
    key ∈ dict.map (·.1) ↔ (dict.get? key).isSome = true := by
  rw [get?, List.lookup_isSome_iff, List.mem_map]
  refine exists_congr fun entry => and_congr_right fun _ => ?_
  rw [beq_iff_eq, eq_comm]

private theorem Groups.exists_get? (groups : Groups options properties dict) (key : String)
    (keyed : ∃ prop ∈ properties, options.Keys prop.token key) :
    ∃ value, dict.get? key = some value ∧ value.toList = options.having key properties := by
  obtain ⟨value, found⟩ := Option.isSome_iff_exists.mp
    ((dict.mem_keys_iff_isSome key).mp ((groups.mem_keys_iff key).mpr keyed))
  exact ⟨value, found, groups.toList_eq key value found⟩

theorem groups_ofProps (options : PropDictOptions)
    (slots : properties.Pairwise fun a b => a.sameSlot b = false) :
    Groups options properties (ofProps options properties) := by
  have looked (key : String) : (ofProps options properties).get? key =
      PropValue.ofList? options.alwaysList (options.having key properties) :=
    get?_ofProps slots key
  refine ⟨nodup_keys_ofProps options properties, ?_, ?_, ?_, ?_⟩
  · intro key
    rw [mem_keys_iff_isSome, looked, PropValue.ofList?_isSome_iff, PropDictOptions.having]
    simp
  · intro key value found
    rw [looked] at found
    exact PropValue.toList_of_ofList? found
  · intro key value found
    rw [looked] at found
    rw [PropValue.toList_of_ofList? found]
    exact slots.filter _
  · intro key value found
    rw [looked] at found
    exact PropValue.eq_one_iff_of_ofList? found

end PropDict

namespace Props

theorem pairwise_slots_of_tokens {props : Props} {properties : List Handle}
    (answered : props.tokens.result = .ok properties) :
    properties.Pairwise fun a b => a.sameSlot b = false :=
  (props.owner.pairwise_slots_tokens props.traversal).sublist (sublist_of_tokens answered)

/-- The dictionary of an owner under an accepted traversal groups the properties of the owner by
their keys. -/
theorem dict_groups_properties (props : Props) (options : PropDictOptions)
    (accepted : props.traversal.check = .ok ()) :
    ∃ properties dict, props.tokens.result = .ok properties ∧
      (props.dict options).result = .ok dict ∧ PropDict.Groups options properties dict := by
  obtain ⟨ender, compiled⟩ := props.rules.exists_compile_boundary props.owner.token
  have tokens := result_tokens props compiled accepted
  exact ⟨_, _, tokens, Traced.result_bind_of_ok tokens,
    PropDict.groups_ofProps options (pairwise_slots_of_tokens tokens)⟩

private def hound : Source :=
  ⟨0, 0, ⟨"hound",
    [.bare "DOG", ⟨"TILE", ["1"]⟩, .bare "PET", .bare "TILE:1", .bare "PET", .bare "PET"]⟩⟩

private def dog : Props where
  owner := ⟨hound, 0, by decide⟩
  traversal := { range := some 4 }

/-- A name that spells the signature of another property, and equal properties, one of them beyond
the range. -/
theorem dict_of_dog :
    dog.traversal.check = .ok () ∧ ∃ dict shared repeated lone,
      (dog.dict { alwaysList := false }).result = .ok dict ∧
      dict.get? "TILE:1" = some shared ∧
      shared.toList = [⟨hound, 1, by decide⟩, ⟨hound, 3, by decide⟩] ∧
      dict.get? "PET" = some repeated ∧
      repeated.toList = [⟨hound, 2, by decide⟩, ⟨hound, 4, by decide⟩] ∧
      dict.get? "TILE" = some lone ∧ ∃ prop, lone = .one prop := by
  obtain ⟨properties, dict, tokens, made, groups⟩ :=
    dict_groups_properties dog { alwaysList := false } rfl
  have known : dog.tokens.result = .ok
      [⟨hound, 1, by decide⟩, ⟨hound, 2, by decide⟩, ⟨hound, 3, by decide⟩,
        ⟨hound, 4, by decide⟩] := by decide
  obtain rfl := Except.ok.inj (known.symm.trans tokens)
  obtain ⟨shared, found, holds⟩ := groups.exists_get? "TILE:1" (by decide)
  obtain ⟨repeated, found', holds'⟩ := groups.exists_get? "PET" (by decide)
  obtain ⟨lone, found'', _⟩ := groups.exists_get? "TILE" (by decide)
  refine ⟨rfl, dict, shared, repeated, lone, made, found, ?_, found', ?_, found'', ?_⟩
  · rw [holds]
    decide
  · rw [holds']
    decide
  · exact (groups.eq_one_iff "TILE" lone found'').mpr ⟨rfl, _, rfl⟩

end Props

end TokenQuery
