import TokenQuery.Dataset
import TokenQuery.Proofs.Traversal.Pass

/-!
The full passes of the targets, of which every pass yields the first tokens. Main statement: a
source yields all of its tokens, a dataset those of its sources one after another, and a handle the
tokens on one side of its own, so that the two passes of a handle and the handle make up its source
(`passes_of_every_target`).
-/

set_option autoImplicit false

namespace TokenQuery

theorem Traversal.limited_sublist {α : Type} (traversal : Traversal) (items : List α) :
    (traversal.limited items).Sublist items := by
  unfold limited
  cases traversal.range with
  | none => exact List.Sublist.refl _
  | some range => exact List.take_sublist range items

private theorem Cursor.indexes_span (front back : Nat) (traversal : Traversal) :
    (span front back traversal).indexes =
      traversal.limited
        (if traversal.reverse then (List.range' front (back - front)).reverse
        else List.range' front (back - front)) := by
  have width : max back front - front = back - front := by omega
  have spanned : (span front back traversal).spanned =
      if traversal.reverse then (List.range' front (back - front)).reverse
      else List.range' front (back - front) := by
    rw [Cursor.spanned, span, ← width]
  have length : (span front back traversal).spanned.length = back - front :=
    (length_spanned _).trans width
  rw [indexes_eq, ← spanned, Traversal.limited]
  cases bound : traversal.range with
  | none =>
    have all : (span front back traversal).left = back - front := by
      simp only [left, span, bound, width]
    dsimp only
    rw [all, ← length, List.take_length]
  | some range =>
    have some_left : (span front back traversal).left = min range (back - front) := by
      simp only [left, span, bound, width]
    dsimp only
    rw [some_left, ← length, List.take_eq_take_iff]
    omega

namespace Source

variable {source : Source} {indexes : List Nat} {front back : Nat}

private theorem map_some_filterMap_at? (inside : ∀ index ∈ indexes, index < source.sequence.size) :
    (indexes.filterMap source.at?).map some = indexes.map source.at? := by
  induction indexes with
  | nil => rfl
  | cons index rest ih =>
    obtain ⟨here, later⟩ := List.forall_mem_cons.mp inside
    obtain ⟨handle, found⟩ := Option.isSome_iff_exists.mp (at?_isSome.mpr here)
    rw [List.filterMap_cons_some found, List.map_cons, List.map_cons, found, ih later]

private theorem length_filterMap_at? (inside : ∀ index ∈ indexes, index < source.sequence.size) :
    (indexes.filterMap source.at?).length = indexes.length := by
  rw [← List.length_map some, map_some_filterMap_at? inside, List.length_map]

private theorem filterMap_at?_take (inside : ∀ index ∈ indexes, index < source.sequence.size)
    (count : Nat) :
    (indexes.take count).filterMap source.at? = (indexes.filterMap source.at?).take count := by
  induction indexes generalizing count with
  | nil => simp
  | cons index rest ih =>
    obtain ⟨here, later⟩ := List.forall_mem_cons.mp inside
    obtain ⟨handle, found⟩ := Option.isSome_iff_exists.mp (at?_isSome.mpr here)
    cases count with
    | zero => rfl
    | succ count =>
      rw [List.take_succ_cons, List.filterMap_cons_some found, List.filterMap_cons_some found,
        List.take_succ_cons, ih later]

private theorem filterMap_at?_limited (inside : ∀ index ∈ indexes, index < source.sequence.size)
    (traversal : Traversal) :
    (traversal.limited indexes).filterMap source.at? =
      traversal.limited (indexes.filterMap source.at?) := by
  unfold Traversal.limited
  cases traversal.range with
  | none => rfl
  | some range => exact filterMap_at?_take inside range

private theorem map_some_handles (source : Source) :
    source.handles.map some = (List.range source.sequence.size).map source.at? :=
  map_some_filterMap_at? fun _ => List.mem_range.mp

theorem length_handles (source : Source) : source.handles.length = source.sequence.size := by
  rw [← List.length_map some, map_some_handles, List.length_map, List.length_range]

theorem getElem?_handles (source : Source) (index : Nat) :
    source.handles[index]? = source.at? index := by
  rcases Nat.lt_or_ge index source.sequence.size with inside | beyond
  · have there := congrArg (·[index]?) source.map_some_handles
    simp only [List.getElem?_map, List.getElem?_range inside, Option.map_some] at there
    obtain ⟨handle, found⟩ := Option.isSome_iff_exists.mp (at?_isSome.mpr inside)
    rw [found, Option.map_eq_some_iff] at there
    obtain ⟨other, listed, same⟩ := there
    rw [listed, found, same]
  · rw [List.getElem?_eq_none (by rw [length_handles]; exact beyond), at?, dif_neg (by omega)]

theorem pairwise_index_handles (source : Source) :
    source.handles.Pairwise fun earlier later => earlier.index < later.index := by
  have ordered : (source.handles.map (·.index)).Pairwise (· < ·) := by
    rw [map_index_handles]
    exact List.pairwise_lt_range
  exact List.pairwise_map.mp ordered

private theorem filterMap_at?_range' (ordered : front ≤ back)
    (within : back ≤ source.sequence.size) :
    (List.range' front (back - front)).filterMap source.at? =
      (source.handles.take back).drop front := by
  have below : ∀ index ∈ List.range' 0 front, index < source.sequence.size := by
    intro index member
    have bound := (List.mem_range'_1.mp member).2
    omega
  have split : List.range' 0 back = List.range' 0 front ++ List.range' front (back - front) := by
    have joined := List.range'_append_1 (s := 0) (m := front) (n := back - front)
    rw [Nat.zero_add, Nat.add_sub_cancel' ordered] at joined
    exact joined.symm
  have early : source.handles.take back = (List.range' 0 back).filterMap source.at? := by
    rw [handles, ← filterMap_at?_take (fun _ => List.mem_range.mp), List.take_range,
      Nat.min_eq_left within, List.range_eq_range']
  rw [early, split, List.filterMap_append, List.drop_left']
  rw [length_filterMap_at? below, List.length_range']

private theorem filterMap_at?_indexes_span (source : Source) (ordered : front ≤ back)
    (within : back ≤ source.sequence.size) (traversal : Traversal) :
    (Cursor.span front back traversal).indexes.filterMap source.at? =
      traversal.limited
        (if traversal.reverse then ((source.handles.take back).drop front).reverse
        else (source.handles.take back).drop front) := by
  have inside : ∀ index ∈ List.range' front (back - front), index < source.sequence.size := by
    intro index member
    have bound := (List.mem_range'_1.mp member).2
    omega
  rw [Cursor.indexes_span, ← filterMap_at?_range' ordered within, ← List.filterMap_reverse]
  split
  · exact filterMap_at?_limited (fun index member => inside index (List.mem_reverse.mp member)) _
  · exact filterMap_at?_limited inside _

theorem tokens_eq (source : Source) (traversal : Traversal) :
    Scannable.tokens source traversal =
      traversal.limited
        (if traversal.reverse then source.handles.reverse else source.handles) := by
  have found := source.filterMap_at?_indexes_span (Nat.zero_le _) (Nat.le_refl _) traversal
  rw [← length_handles, List.take_length, List.drop_zero, length_handles] at found
  exact found

end Source

namespace Handle

variable {source : Source} {handle : Handle} {earlier later : List Handle}

/-- The tokens of the source before a token, by increasing index. -/
def before (handle : Handle) : List Handle := handle.source.handles.take handle.index

/-- The tokens of the source after a token, by increasing index. -/
def after (handle : Handle) : List Handle := handle.source.handles.drop (handle.index + 1)

theorem before_append_cons_after (handle : Handle) :
    handle.before ++ handle :: handle.after = handle.source.handles := by
  have here : handle.source.handles[handle.index]? = some handle := by
    rw [Source.getElem?_handles, Source.at?_eq_some_iff]
    exact ⟨rfl, rfl⟩
  obtain ⟨inside, same⟩ := List.getElem?_eq_some_iff.mp here
  have next := List.drop_eq_getElem_cons inside
  rw [same] at next
  rw [before, after, ← next, List.take_append_drop]

theorem of_handles_eq (split : source.handles = earlier ++ handle :: later) :
    handle.source = source ∧ handle.before = earlier ∧ handle.after = later := by
  have here : source.handles[earlier.length]? = some handle := by
    rw [split, List.getElem?_append_right (Nat.le_refl _), Nat.sub_self, List.getElem?_cons_zero]
  rw [Source.getElem?_handles, Source.at?_eq_some_iff] at here
  obtain ⟨rfl, index⟩ := here
  refine ⟨rfl, ?_, ?_⟩
  · rw [before, split, index, List.take_left]
  · rw [after, split, index, List.append_cons, List.drop_left']
    rw [List.length_append, List.length_singleton]

theorem length_before (handle : Handle) : handle.before.length = handle.index := by
  rw [before, List.length_take, Source.length_handles]
  exact Nat.min_eq_left (Nat.le_of_lt handle.index_lt)

private theorem map_some_before (handle : Handle) :
    handle.before.map some = (List.range handle.index).map handle.source.at? := by
  rw [before, List.map_take, Source.map_some_handles, ← List.map_take, List.take_range,
    Nat.min_eq_left (Nat.le_of_lt handle.index_lt)]

private theorem map_some_after (handle : Handle) :
    handle.after.map some =
      (List.range' (handle.index + 1) (handle.source.sequence.size - (handle.index + 1))).map
        handle.source.at? := by
  rw [after, List.map_drop, Source.map_some_handles, ← List.map_drop, List.range_eq_range',
    List.drop_range', Nat.zero_add, Nat.mul_one]

theorem tokens_eq (handle : Handle) (traversal : Traversal) :
    Scannable.tokens handle traversal =
      traversal.limited (if traversal.reverse then handle.before.reverse else handle.after) := by
  cases direction : traversal.reverse with
  | true =>
    have found := handle.source.filterMap_at?_indexes_span (Nat.zero_le _)
      (Nat.le_of_lt handle.index_lt) traversal
    have cursor : handle.cursor traversal = .span 0 handle.index traversal := by
      rw [Handle.cursor, if_pos direction]
    rw [direction, if_pos rfl, List.drop_zero, ← cursor] at found
    exact found
  | false =>
    have found := handle.source.filterMap_at?_indexes_span handle.index_lt (Nat.le_refl _)
      traversal
    have cursor : handle.cursor traversal =
        .span (handle.index + 1) handle.source.sequence.size traversal := by
      rw [Handle.cursor, direction, if_neg Bool.false_ne_true]
    rw [direction, if_neg Bool.false_ne_true, ← Source.length_handles, List.take_length,
      Source.length_handles, ← cursor] at found
    exact found

theorem after_eq_filter (handle : Handle) :
    handle.after = handle.source.handles.filter fun other => handle.index + 1 ≤ other.index := by
  have ordered := handle.source.pairwise_index_handles
  rw [← handle.before_append_cons_after] at ordered ⊢
  obtain ⟨_, behind, front⟩ := List.pairwise_append.mp ordered
  have dropped : (handle.before.filter fun other => handle.index + 1 ≤ other.index) = [] := by
    refine List.filter_eq_nil_iff.mpr ?_
    intro other member
    have below := front other member handle (.head _)
    rw [decide_eq_true_iff]
    omega
  have kept : (handle.after.filter fun other => handle.index + 1 ≤ other.index) = handle.after := by
    refine List.filter_eq_self.mpr ?_
    intro other member
    exact decide_eq_true (List.rel_of_pairwise_cons behind member)
  rw [List.filter_append, dropped, List.filter_cons_of_neg (by simp), kept, List.nil_append]

end Handle

namespace Dataset

/-- The tokens of all sources, in the order of the sources. -/
def handles (dataset : Dataset) : List Handle := dataset.sources.flatMap Source.handles

theorem tokens_eq (dataset : Dataset) (traversal : Traversal) :
    Scannable.tokens dataset traversal =
      traversal.limited
        (if traversal.reverse then dataset.handles.reverse else dataset.handles) := by
  have each (source : Source) : Scannable.tokens source traversal.unbounded =
      if traversal.reverse then source.handles.reverse else source.handles :=
    source.tokens_eq traversal.unbounded
  have chained : Scannable.tokens dataset traversal =
      traversal.limited
        ((if traversal.reverse then dataset.sources.reverse else dataset.sources).flatMap
          fun source => Scannable.tokens source traversal.unbounded) := rfl
  rw [chained]
  simp only [each]
  cases traversal.reverse with
  | true =>
    rw [if_pos rfl, if_pos rfl, handles, List.reverse_flatMap]
    rfl
  | false => rfl

end Dataset

/-- The passes of a target with these full passes. A pass with a range yields the first tokens of a
full one, and a traversal that includes the target itself is refused. -/
structure Passes {σ : Type} [Scannable σ] (target : σ) (onward backward : List Handle) : Prop where
  refused : ∀ reverse range,
    pass target { reverse, range, includeSelf := true } = .error .selfInclusion
  forward : pass target {} = .ok onward
  forward_within : ∀ range, pass target { range := some range } = .ok (onward.take range)
  reversed : pass target { reverse := true } = .ok backward
  reversed_within : ∀ range,
    pass target { reverse := true, range := some range } = .ok (backward.take range)

theorem passes_of_tokens_eq {σ : Type} [Scannable σ] {target : σ} {onward backward : List Handle}
    (tokens_eq : ∀ traversal, Scannable.tokens target traversal =
      traversal.limited (if traversal.reverse then backward else onward)) :
    Passes target onward backward := by
  have accepted (reverse : Bool) (range : Option Nat) :
      pass target { reverse, range } =
        .ok (Traversal.limited { reverse, range } (if reverse then backward else onward)) :=
    congrArg Except.ok (tokens_eq { reverse, range })
  exact ⟨fun _ _ => rfl, accepted false none, fun range => accepted false (some range),
    accepted true none, fun range => accepted true (some range)⟩

/-- The full pass of a source yields all of its tokens by increasing index, that of a dataset the
tokens of its sources one after another, and the reversed ones yield the same from the end. The full
passes of a handle yield the tokens after it, and those before it from the nearest on, so that with
the handle between them they make up its source. -/
theorem passes_of_every_target :
    (∀ source : Source,
      source.handles.map some = (List.range source.sequence.size).map source.at? ∧
        Passes source source.handles source.handles.reverse) ∧
    (∀ dataset : Dataset,
      Passes dataset (dataset.sources.flatMap Source.handles)
        (dataset.sources.flatMap Source.handles).reverse) ∧
    ∀ handle : Handle, ∃ onward backward,
      Passes handle onward backward ∧
      onward.map some =
        (List.range' (handle.index + 1) (handle.source.sequence.size - (handle.index + 1))).map
          handle.source.at? ∧
      backward.map some = (List.range handle.index).reverse.map handle.source.at? ∧
      backward.reverse ++ handle :: onward = handle.source.handles := by
  refine ⟨?_, fun dataset => passes_of_tokens_eq dataset.tokens_eq, ?_⟩
  · intro source
    exact ⟨source.map_some_handles, passes_of_tokens_eq source.tokens_eq⟩
  · intro handle
    refine ⟨handle.after, handle.before.reverse, passes_of_tokens_eq handle.tokens_eq,
      handle.map_some_after, ?_, ?_⟩
    · rw [List.map_reverse, handle.map_some_before, List.map_reverse]
    · rw [List.reverse_reverse, handle.before_append_cons_after]

end TokenQuery
