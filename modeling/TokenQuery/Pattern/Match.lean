import TokenQuery.Pattern.Expr

/-!
What pattern expressions mean. `Matches` says which stretch of a text an expression matches, rule by
rule and without regard to how a match is looked for.

The main statement is `occursIn_eq_true_iff`: the search from left to right finds a match exactly
when there is one. It rests on `matches_cons_iff`, which says that `rests` takes an expression over
one character, and on `matches_nil_iff`, which says the same of `matchesEmpty` and the empty
stretch.
-/

set_option autoImplicit false

namespace TokenQuery.Pattern

/-- The character in front of the position behind `taken`, when `before` is the one in front of
`taken`. -/
def lastOr (before : Option Char) (taken : List Char) : Option Char :=
  taken.foldl (fun _ c => some c) before

@[simp] theorem lastOr_nil (before : Option Char) : lastOr before [] = before := rfl

@[simp] theorem lastOr_cons (before : Option Char) (c : Char) (taken : List Char) :
    lastOr before (c :: taken) = lastOr (some c) taken := rfl

namespace Expr

/-- The expression matches the stretch `taken` of a text, which stands between the character
`before` and the text `after`. -/
inductive Matches : Expr → Option Char → List Char → List Char → Prop where
  | empty {before : Option Char} {after : List Char} : Matches .empty before [] after
  | chars {set : CharSet} {before : Option Char} {c : Char} {after : List Char}
      (member : set.contains c = true) : Matches (.chars set) before [c] after
  | look {l : Look} {before : Option Char} {after : List Char}
      (holds : l.holds before after.head? = true) : Matches (.look l) before [] after
  | seq {a b : Expr} {before : Option Char} {u v after : List Char}
      (first : Matches a before u (v ++ after)) (second : Matches b (lastOr before u) v after) :
      Matches (.seq a b) before (u ++ v) after
  | left {a b : Expr} {before : Option Char} {u after : List Char}
      (chosen : Matches a before u after) : Matches (.alt a b) before u after
  | right {a b : Expr} {before : Option Char} {u after : List Char}
      (chosen : Matches b before u after) : Matches (.alt a b) before u after
  | done {body : Expr} {further : Option Nat} {before : Option Char} {after : List Char} :
      Matches (.repeated body 0 further) before [] after
  | round {body : Expr} {least : Nat} {further : Option Nat} {before : Option Char}
      {u v after : List Char} (first : Matches body before u (v ++ after))
      (others : Matches (.repeated body least further) (lastOr before u) v after) :
      Matches (.repeated body (least + 1) further) before (u ++ v) after
  | more {body : Expr} {further : Option Nat} {before : Option Char} {u v after : List Char}
      (allowed : further ≠ some 0) (first : Matches body before u (v ++ after))
      (others : Matches (.repeated body 0 (further.map (· - 1))) (lastOr before u) v after) :
      Matches (.repeated body 0 further) before (u ++ v) after

variable {a b body : Expr} {before : Option Char} {u v after : List Char}

theorem matches_seq_iff {t : List Char} : Matches (.seq a b) before t after ↔
    ∃ u v, t = u ++ v ∧ Matches a before u (v ++ after) ∧ Matches b (lastOr before u) v after := by
  constructor
  · intro h
    cases h with
    | seq first second => exact ⟨_, _, rfl, first, second⟩
  · rintro ⟨u, v, rfl, first, second⟩
    exact .seq first second

private theorem matches_alt_iff : Matches (.alt a b) before u after ↔
    Matches a before u after ∨ Matches b before u after := by
  constructor
  · intro h
    cases h with
    | left chosen => exact .inl chosen
    | right chosen => exact .inr chosen
  · rintro (h | h)
    · exact .left h
    · exact .right h

private theorem Matches.pad {further : Option Nat} (nothing : Matches body before [] (u ++ after))
    {least : Nat} (h : Matches (.repeated body least further) before u after) :
    ∀ rounds : Nat, Matches (.repeated body (least + rounds) further) before u after
  | 0 => h
  | rounds + 1 => .round (u := []) nothing (pad nothing h rounds)

/-- The expression matches the empty stretch exactly when `matchesEmpty` says so. -/
theorem matches_nil_iff {e : Expr} :
    Matches e before [] after ↔ e.matchesEmpty before after.head? = true := by
  induction e generalizing before after with
  | empty => exact ⟨fun _ => rfl, fun _ => .empty⟩
  | chars set =>
    constructor
    · intro h; cases h
    · intro h; cases h
  | look l =>
    constructor
    · intro h
      cases h with
      | look holds => exact holds
    · exact .look
  | seq a b iha ihb =>
    simp only [matchesEmpty, Bool.and_eq_true, ← iha, ← ihb]
    constructor
    · intro h
      obtain ⟨u, v, huv, first, second⟩ := matches_seq_iff.mp h
      obtain ⟨rfl, rfl⟩ := List.append_eq_nil_iff.mp huv.symm
      exact ⟨first, second⟩
    · rintro ⟨first, second⟩
      exact .seq (u := []) (v := []) first second
  | alt a b iha ihb => simp only [matchesEmpty, Bool.or_eq_true, ← iha, ← ihb, matches_alt_iff]
  | repeated body least further ih =>
    simp only [matchesEmpty, Bool.or_eq_true, beq_iff_eq, ← ih]
    constructor
    · intro h
      generalize ht : ([] : List Char) = t at h
      cases h with
      | done => exact .inl rfl
      | round first others =>
        obtain ⟨rfl, rfl⟩ := List.append_eq_nil_iff.mp ht.symm
        exact .inr first
      | more => exact .inl rfl
    · rintro (rfl | h)
      · exact .done
      · have idle : Matches (.repeated body 0 further) before [] after := .done
        simpa using Matches.pad (u := []) h idle least

private theorem Matches.relax {least : Nat} {further : Option Nat}
    (h : Matches (.repeated body least further) before u after) :
    Matches (.repeated body 0 (further.map (least + ·))) before u after := by
  induction least generalizing before u with
  | zero => simpa using h
  | succ least ih =>
    cases h with
    | round first others =>
      refine .more ?_ first ?_
      · cases further <;> simp
      · have := ih others
        cases further with
        | none => exact this
        | some n => simpa [show least + 1 + n - 1 = least + n by omega] using this

theorem Matches.allow {further : Option Nat}
    (h : Matches (.repeated body 0 further) before u after) (extra : Nat) :
    Matches (.repeated body 0 (further.map (extra + ·))) before u after := by
  generalize he : Expr.repeated body 0 further = e at h
  induction h generalizing further with
  | done => cases he; exact .done
  | more allowed first others _ ih =>
    injection he with hbody _ hfurther
    subst hbody hfurther
    refine .more ?_ first ?_
    · cases further with
      | none => simp
      | some n => simp at allowed ⊢; omega
    · have rest := ih rfl
      cases further with
      | none => exact rest
      | some n =>
        have positive : n ≠ 0 := by simpa using allowed
        simpa [show extra + n - 1 = extra + (n - 1) by omega] using rest
  | _ => cases he

private theorem Matches.tighten {further : Option Nat} {extra : Nat}
    (h : Matches (.repeated body 0 (further.map (extra + ·))) before u after) :
    ∃ least, least ≤ extra ∧ Matches (.repeated body least further) before u after := by
  generalize he : Expr.repeated body 0 (further.map (extra + ·)) = e at h
  induction h generalizing extra with
  | done => cases he; exact ⟨0, Nat.zero_le _, .done⟩
  | more allowed first others _ ih =>
    cases he
    cases extra with
    | zero =>
      refine ⟨0, Nat.le_refl _, ?_⟩
      have : further.map (0 + ·) = further := by cases further <;> simp
      rw [this] at allowed others
      exact .more allowed first others
    | succ extra =>
      have : (further.map (extra + 1 + ·)).map (· - 1) = further.map (extra + ·) := by
        cases further <;> simp
      obtain ⟨least, le, rest⟩ := @ih extra (by rw [this])
      exact ⟨least + 1, Nat.succ_le_succ le, .round first rest⟩
  | _ => cases he

private theorem matches_andThen_iff :
    Matches (a.andThen b) before u after ↔ Matches (.seq a b) before u after := by
  unfold andThen
  split
  · constructor
    · exact fun h => .seq (u := []) .empty h
    · intro h
      obtain ⟨s, t, rfl, first, second⟩ := matches_seq_iff.mp h
      cases first
      exact second
  · rfl

private theorem exists_mem_rests_of_round {c : Char} {least : Nat} {further : Option Nat} {r : Expr}
    (mem : r ∈ body.rests before c) (first : Matches r (some c) u (v ++ after))
    (others : Matches (.repeated body least further) (lastOr (some c) u) v after) :
    ∃ r ∈ (Expr.repeated body (least + 1) further).rests before c,
      Matches r (some c) (u ++ v) after := by
  refine ⟨_, List.mem_map_of_mem mem, matches_andThen_iff.mpr (.seq first ?_)⟩
  split
  · exact others.relax
  · exact others

private theorem exists_mem_rests_succ {c : Char} {least : Nat} {further : Option Nat} {r : Expr}
    (nothing : body.matchesEmpty before (some c) = true)
    (mem : r ∈ (Expr.repeated body least further).rests before c)
    (h : Matches r (some c) u after) :
    ∃ r ∈ (Expr.repeated body (least + 1) further).rests before c, Matches r (some c) u after := by
  cases least with
  | zero =>
    simp only [rests] at mem
    split at mem
    · cases mem
    · obtain ⟨q, inner, rfl⟩ := List.mem_map.mp mem
      obtain ⟨s, t, rfl, first, second⟩ := matches_seq_iff.mp (matches_andThen_iff.mp h)
      refine exists_mem_rests_of_round inner first ?_
      cases further with
      | none => exact second
      | some n =>
        have := second.allow 1
        have positive : n ≠ 0 := by simp_all
        simpa [show 1 + (n - 1) = n by omega] using this
  | succ least =>
    simp only [rests, nothing, if_true] at mem
    obtain ⟨q, inner, rfl⟩ := List.mem_map.mp mem
    obtain ⟨s, t, rfl, first, second⟩ := matches_seq_iff.mp (matches_andThen_iff.mp h)
    refine ⟨_, List.mem_map_of_mem inner, matches_andThen_iff.mpr (.seq first ?_)⟩
    rw [if_pos nothing]
    have := second.allow 1
    cases further with
    | none => exact this
    | some n => simpa [show least + 1 + n = 1 + (least + n) by omega] using this

private theorem exists_mem_rests_of_repeated {c : Char} {least : Nat} {further : Option Nat}
    (step : ∀ {before : Option Char} {u after : List Char}, Matches body before (c :: u) after →
      ∃ r ∈ body.rests before c, Matches r (some c) u after)
    (h : Matches (.repeated body least further) before (c :: u) after) :
    ∃ r ∈ (Expr.repeated body least further).rests before c, Matches r (some c) u after := by
  generalize he : Expr.repeated body least further = e at h
  generalize ht : c :: u = t at h
  induction h generalizing least further u with
  | round first others _ ih =>
    injection he with hbody hleast hfurther
    subst hbody hleast hfurther
    rename_i s t after _
    cases s with
    | nil =>
      obtain ⟨r, mem, rest⟩ := ih rfl ht
      subst ht
      exact exists_mem_rests_succ (matches_nil_iff.mp first) mem rest
    | cons d s =>
      obtain ⟨rfl, rfl⟩ := List.cons.inj ht
      obtain ⟨r, mem, rest⟩ := step first
      exact exists_mem_rests_of_round mem rest others
  | more allowed first others _ ih =>
    injection he with hbody hleast hfurther
    subst hbody hleast hfurther
    rename_i s t after _
    simp only [rests, if_neg allowed]
    cases s with
    | nil =>
      obtain ⟨r, mem, rest⟩ := ih rfl ht
      simp only [rests] at mem
      split at mem
      · cases mem
      · obtain ⟨q, inner, rfl⟩ := List.mem_map.mp mem
        refine ⟨_, List.mem_map_of_mem inner, matches_andThen_iff.mpr ?_⟩
        obtain ⟨s, t, rfl, first, second⟩ := matches_seq_iff.mp (matches_andThen_iff.mp rest)
        refine .seq first ?_
        cases further with
        | none => exact second
        | some n =>
          have := second.allow 1
          have positive : n - 1 ≠ 0 := by simp_all
          simpa [show 1 + (n - 1 - 1) = n - 1 by omega] using this
    | cons d s =>
      obtain ⟨rfl, rfl⟩ := List.cons.inj ht
      obtain ⟨r, mem, rest⟩ := step first
      exact ⟨_, List.mem_map_of_mem mem, matches_andThen_iff.mpr (.seq rest others)⟩
  | done => cases ht
  | _ => cases he

/-- The expression matches a stretch that begins with `c` exactly when one of its `rests` over `c`
matches what is left of the stretch. -/
theorem matches_cons_iff {e : Expr} {c : Char} :
    Matches e before (c :: u) after ↔ ∃ r ∈ e.rests before c, Matches r (some c) u after := by
  induction e generalizing before u after with
  | empty =>
    constructor
    · intro h; cases h
    · rintro ⟨r, mem, -⟩; cases mem
  | chars set =>
    simp only [rests]
    constructor
    · intro h
      cases h with
      | chars member => exact ⟨.empty, by simp [member], .empty⟩
    · rintro ⟨r, mem, h⟩
      split at mem
      · obtain rfl := List.mem_singleton.mp mem
        cases h
        exact .chars ‹_›
      · cases mem
  | look l =>
    constructor
    · intro h; cases h
    · rintro ⟨r, mem, -⟩; cases mem
  | seq a b iha ihb =>
    simp only [rests, List.mem_append, List.mem_map]
    constructor
    · intro h
      obtain ⟨s, t, hst, first, second⟩ := matches_seq_iff.mp h
      cases s with
      | nil =>
        subst hst
        obtain ⟨r, mem, rest⟩ := ihb.mp second
        have nothing : a.matchesEmpty before (some c) = true := matches_nil_iff.mp first
        exact ⟨r, .inr (by rw [if_pos nothing]; exact mem), rest⟩
      | cons d s =>
        obtain ⟨rfl, rfl⟩ := List.cons.inj hst
        obtain ⟨r, mem, rest⟩ := iha.mp first
        exact ⟨_, .inl ⟨r, mem, rfl⟩, matches_andThen_iff.mpr (.seq rest second)⟩
    · rintro ⟨r, ⟨r, mem, rfl⟩ | mem, h⟩
      · obtain ⟨s, t, rfl, first, second⟩ := matches_seq_iff.mp (matches_andThen_iff.mp h)
        exact .seq (u := c :: s) (iha.mpr ⟨r, mem, first⟩) second
      · split at mem
        · exact .seq (u := []) (matches_nil_iff.mpr ‹_›) (ihb.mpr ⟨r, mem, h⟩)
        · cases mem
  | alt a b iha ihb =>
    simp only [rests, List.mem_append, matches_alt_iff, iha, ihb]
    constructor
    · rintro (⟨r, mem, h⟩ | ⟨r, mem, h⟩)
      · exact ⟨r, .inl mem, h⟩
      · exact ⟨r, .inr mem, h⟩
    · rintro ⟨r, mem | mem, h⟩
      · exact .inl ⟨r, mem, h⟩
      · exact .inr ⟨r, mem, h⟩
  | repeated body least further ih =>
    refine ⟨exists_mem_rests_of_repeated ih.mp, ?_⟩
    rintro ⟨r, mem, h⟩
    cases least with
    | zero =>
      simp only [rests] at mem
      split at mem
      · cases mem
      · obtain ⟨q, inner, rfl⟩ := List.mem_map.mp mem
        obtain ⟨s, t, rfl, first, second⟩ := matches_seq_iff.mp (matches_andThen_iff.mp h)
        exact .more (u := c :: s) ‹_› (ih.mpr ⟨q, inner, first⟩) second
    | succ least =>
      simp only [rests] at mem
      obtain ⟨q, inner, rfl⟩ := List.mem_map.mp mem
      obtain ⟨s, t, rfl, first, second⟩ := matches_seq_iff.mp (matches_andThen_iff.mp h)
      have round := ih.mpr ⟨q, inner, first⟩
      split at second
      · have nothing : Matches body before [] (c :: s ++ t ++ after) := matches_nil_iff.mpr ‹_›
        obtain ⟨needed, le, rest⟩ := second.tighten
        have all : Matches (.repeated body (needed + 1) further) before (c :: s ++ t) after :=
          .round round rest
        simpa [show needed + 1 + (least - needed) = least + 1 by omega] using
          Matches.pad nothing all (least - needed)
      · exact .round (u := c :: s) round second

/-- The search finds a match exactly when one of the pending expressions matches a stretch from here
on, or the expression to look for matches one that begins later. -/
private theorem found_eq_true_iff {start : Expr} {pending : List Expr} {text : List Char} :
    found start before pending text = true ↔
      (∃ e ∈ pending, ∃ u v, text = u ++ v ∧ Matches e before u v) ∨
        ∃ c w u v, text = c :: w ++ u ++ v ∧ Matches start (lastOr before (c :: w)) u v := by
  induction text generalizing before pending with
  | nil =>
    simp only [found, List.any_eq_true]
    constructor
    · rintro ⟨e, mem, h⟩
      exact .inl ⟨e, mem, [], [], rfl, matches_nil_iff.mpr h⟩
    · rintro (⟨e, mem, u, v, huv, h⟩ | ⟨c, w, u, v, h, -⟩)
      · obtain ⟨rfl, rfl⟩ := List.append_eq_nil_iff.mp huv.symm
        exact ⟨e, mem, matches_nil_iff.mp h⟩
      · simp at h
  | cons c text ih =>
    simp only [found, Bool.or_eq_true, List.any_eq_true, ih, List.mem_eraseDups, List.mem_cons,
      List.mem_flatMap]
    constructor
    · rintro (⟨e, mem, h⟩ | ⟨e, rfl | ⟨e, mem, h⟩, u, v, rfl, m⟩ | ⟨d, w, u, v, rfl, m⟩)
      · exact .inl ⟨e, mem, [], c :: text, rfl, matches_nil_iff.mpr h⟩
      · exact .inr ⟨c, [], u, v, rfl, m⟩
      · exact .inl ⟨_, mem, c :: u, v, rfl, matches_cons_iff.mpr ⟨_, h, m⟩⟩
      · exact .inr ⟨c, d :: w, u, v, rfl, m⟩
    · rintro (⟨e, mem, u, v, huv, m⟩ | ⟨d, w, u, v, huv, m⟩)
      · cases u with
        | nil =>
          subst huv
          exact .inl ⟨e, mem, matches_nil_iff.mp m⟩
        | cons d u =>
          obtain ⟨rfl, rfl⟩ := List.cons.inj huv
          obtain ⟨r, h, m⟩ := matches_cons_iff.mp m
          exact .inr (.inl ⟨r, .inr ⟨e, mem, h⟩, u, v, rfl, m⟩)
      · cases w with
        | nil =>
          obtain ⟨rfl, rfl⟩ := List.cons.inj huv
          exact .inr (.inl ⟨start, .inl rfl, u, v, rfl, m⟩)
        | cons e w =>
          obtain ⟨rfl, rfl⟩ := List.cons.inj huv
          exact .inr (.inr ⟨e, w, u, v, rfl, m⟩)

/-- The search finds a match in a text exactly when the expression matches a stretch of it. -/
theorem occursIn_eq_true_iff {e : Expr} {text : List Char} :
    e.occursIn text = true ↔ ∃ w u v, text = w ++ u ++ v ∧ Matches e (lastOr none w) u v := by
  simp only [occursIn, found_eq_true_iff, List.mem_singleton, exists_eq_left]
  constructor
  · rintro (⟨u, v, rfl, m⟩ | ⟨c, w, u, v, rfl, m⟩)
    · exact ⟨[], u, v, rfl, m⟩
    · exact ⟨c :: w, u, v, rfl, m⟩
  · rintro ⟨w, u, v, rfl, m⟩
    cases w with
    | nil => exact .inl ⟨u, v, rfl, m⟩
    | cons c w => exact .inr ⟨c, w, u, v, rfl, m⟩

end Expr

end TokenQuery.Pattern
