import Mathlib.Data.List.Infix
import SketchRepair.Text.Fold
import SketchRepair.Text.Search

/-!
# SketchRepair — where a text occurs in another

The matchers of the library walk over a text; what they look for is best said with
the prefixes and infixes of lists. This module turns one into the other, for exact
search and for search without regard to case, and says when an occurrence cannot
run over the seam between two texts.

* `has_iff`, `afterFold?_eq_some_iff`, `exists_afterFold?_iff` — matchers as
  prefixes and infixes;
* `search_eq_none_iff`, `search_eq_some_iff` — the first match, and nothing before
  it matches;
* `exists_search_append`, `find?_append_of_none` — a match at the end of a text bounds the
  first, and is it when none comes before;
* `eq_of_fold_eq`, `lt_not_mem_map_fold` — ignoring case makes no tag begin where none began;
* `not_prefix_over_seam` — a pattern whose first character comes only once does not
  run over the beginning of a text that starts with it;
* `Clear.infix_of_append`, `Clear.infix_of_between` — a text put in before another one,
  or between two, makes no pattern occur that is clear of it.
-/

namespace SketchRepair

namespace Text

/-- A prefix of two texts together ends in the first or takes all of it. -/
theorem prefix_append_iff {α : Type} {p a b : List α} :
    p <+: a ++ b ↔ p <+: a ∨ ∃ q, q <+: b ∧ p = a ++ q := by
  constructor
  · intro h
    rcases List.prefix_or_prefix_of_prefix h (List.prefix_append a b) with hpa | ⟨q, rfl⟩
    · exact Or.inl hpa
    · exact Or.inr ⟨q, (List.prefix_append_right_inj a).mp h, rfl⟩
  · rintro (h | ⟨q, hq, rfl⟩)
    · exact List.prefix_append_of_prefix h
    · exact (List.prefix_append_right_inj a).mpr hq

/-- A suffix of two texts together begins in the second or takes all of it. -/
theorem suffix_append_iff {α : Type} {s a b : List α} :
    s <:+ a ++ b ↔ s <:+ b ∨ ∃ q, q <:+ a ∧ s = q ++ b := by
  constructor
  · intro h
    rcases List.suffix_or_suffix_of_suffix h (List.suffix_append a b) with hsb | ⟨q, rfl⟩
    · exact .inl hsb
    · obtain ⟨w, hw⟩ := h
      rw [← List.append_assoc] at hw
      exact .inr ⟨q, ⟨w, List.append_cancel_right hw⟩, rfl⟩
  · rintro (h | ⟨q, ⟨w, rfl⟩, rfl⟩)
    · exact List.suffix_append_of_suffix h
    · exact ⟨w, by rw [List.append_assoc]⟩

/-- What is taken from a text, and what is left of it. -/
theorem takeWhile_append_drop (p : Char → Bool) (t : Text) :
    t.takeWhile p ++ t.drop (t.takeWhile p).length = t :=
  List.prefix_iff_eq_append.mp (List.takeWhile_prefix p)

/-- What is taken while a character does not stop it, stops there. -/
theorem takeWhile_stop {p : Char → Bool} {c : Char} (hc : p c = false) (x rest : Text) :
    (x ++ c :: rest).takeWhile p = x.takeWhile p := by
  induction x with
  | nil => rw [List.nil_append, List.takeWhile_cons_of_neg (by simp [hc]), List.takeWhile_nil]
  | cons d x ih =>
    rw [List.cons_append, List.takeWhile_cons, List.takeWhile_cons, ih]

/-- A character of a class is none of those outside of it. -/
theorem ne_of_class {q : Char → Bool} {c d : Char} (hc : q c = true) (hd : q d = false) :
    c ≠ d := by
  rintro rfl
  exact Bool.false_ne_true (hd.symm.trans hc)

/-- What holds of every end of a text holds of it and of the ends behind its first character. -/
theorem forall_suffix_cons_iff {c : Char} {u : Text} {q : Text → Prop} :
    (∀ s, s <:+ c :: u → s ≠ [] → q s) ↔ q (c :: u) ∧ ∀ s, s <:+ u → s ≠ [] → q s := by
  constructor
  · intro h
    exact ⟨h _ (List.suffix_refl _) (List.cons_ne_nil c u), fun s hs hne =>
      h s (hs.trans (List.suffix_cons c u)) hne⟩
  · rintro ⟨hHere, hRest⟩ s hs hne
    rcases List.suffix_cons_iff.mp hs with rfl | hs
    · exact hHere
    · exact hRest s hs hne

theorem forall_suffix_nil_iff {q : Text → Prop} :
    (∀ s, s <:+ ([] : Text) → s ≠ [] → q s) ↔ True :=
  iff_true_intro fun _ hs hne => absurd (List.suffix_nil.mp hs) hne

-- ---------------------------------------------------------------------------
-- Exact occurrences
-- ---------------------------------------------------------------------------

theorem startsWith_iff {p t : Text} : startsWith p t = true ↔ p <+: t := by
  rw [startsWith, Option.isSome_iff_exists]
  constructor
  · rintro ⟨rest, h⟩
    exact ⟨rest, (after?_eq_some.mp h).symm⟩
  · rintro ⟨rest, rfl⟩
    exact ⟨rest, after?_eq_some.mpr rfl⟩

theorem has_iff {p t : Text} : has p t = true ↔ p <:+: t := by
  induction t with
  | nil => simp [has, cut?]
  | cons c t ih =>
    have hStarts := startsWith_iff (p := p) (t := c :: t)
    rw [has] at ih ⊢
    rw [startsWith] at hStarts
    rw [cut?, List.infix_cons_iff, ← hStarts, ← ih]
    cases after? p (c :: t) with
    | none => simp
    | some rest => simp

theorem has_of_cut? {p t : Text} {cut : Text × Text} (h : cut? p t = some cut) :
    has p t = true := by
  rw [has, h]
  rfl

theorem not_has_of_cut? {p t : Text} (h : cut? p t = none) : ¬ has p t = true := by
  rw [has, h]
  simp

theorem hasAny_iff {ps : List Text} {t : Text} :
    hasAny ps t = true ↔ ∃ p ∈ ps, p <:+: t := by
  simp only [hasAny, List.any_eq_true, has_iff]

-- ---------------------------------------------------------------------------
-- Occurrences without regard to case
-- ---------------------------------------------------------------------------

theorem afterFold?_eq_some_iff {p t rest : Text} :
    afterFold? p t = some rest ↔ ∃ h, t = h ++ rest ∧ h.map fold = p := by
  constructor
  · intro h
    obtain ⟨ht, hp, -⟩ := afterFold?_eq_some h
    exact ⟨_, ht, hp⟩
  · rintro ⟨h, rfl, rfl⟩
    induction h with
    | nil => rfl
    | cons c h ih => rw [List.cons_append, List.map_cons, afterFold?, if_pos rfl, ih]

theorem exists_afterFold?_iff {p t : Text} :
    (∃ rest, afterFold? p t = some rest) ↔ p <+: t.map fold := by
  constructor
  · rintro ⟨rest, h⟩
    obtain ⟨h, rfl, rfl⟩ := afterFold?_eq_some_iff.mp h
    exact ⟨rest.map fold, by rw [List.map_append]⟩
  · rintro ⟨u, hu⟩
    obtain ⟨h, rest, rfl, hh, -⟩ := List.map_eq_append_iff.mp hu.symm
    exact ⟨rest, afterFold?_eq_some_iff.mpr ⟨h, rfl, hh⟩⟩

theorem afterFold?_eq_none_iff {p t : Text} :
    afterFold? p t = none ↔ ¬ p <+: t.map fold := by
  rw [← exists_afterFold?_iff, Option.eq_none_iff_forall_ne_some, not_exists]

theorem hasFold_iff {p t : Text} : hasFold p t = true ↔ p <:+: t.map fold := by
  induction t with
  | nil => simp [hasFold]
  | cons c t ih =>
    rw [hasFold, Bool.or_eq_true, ih, startsWithFold, Option.isSome_iff_exists,
      exists_afterFold?_iff, List.map_cons, List.infix_cons_iff]

/-- What comes before the small letters is itself only, when case is ignored. -/
theorem eq_of_fold_eq {c x : Char} (hx : x.toNat < 97) (h : fold c = x) : c = x := by
  unfold fold at h
  split at h
  · next hUpper =>
    have hRange : c.val ≥ 'A'.val ∧ c.val ≤ 'Z'.val := of_decide_eq_true hUpper
    have hLower : c.toLower.val = c.val + ('a'.val - 'A'.val) := congrArg Char.val (dif_pos hRange)
    rw [h] at hLower
    have hSum : x.toNat = (c.val + ('a'.val - 'A'.val)).toNat := congrArg UInt32.toNat hLower
    obtain ⟨hLow, hHigh⟩ := hRange
    rw [ge_iff_le, UInt32.le_iff_toNat_le] at hLow
    rw [UInt32.le_iff_toNat_le] at hHigh
    simp at hSum hLow hHigh
    omega
  · split at h
    · exact absurd hx (h ▸ by decide)
    · split at h
      · exact absurd hx (h ▸ by decide)
      · split at h
        · exact absurd hx (h ▸ by decide)
        · exact h

/-- Only `<` itself is taken for `<` when case is ignored. -/
theorem lt_not_mem_map_fold {t : Text} (h : '<' ∉ t) : '<' ∉ t.map fold := by
  intro hMem
  obtain ⟨c, hc, hFold⟩ := List.mem_map.mp hMem
  exact h (eq_of_fold_eq (by decide) hFold ▸ hc)

/-- What occurs when case is ignored begins somewhere. -/
theorem exists_suffix_of_infix {p t : Text} (h : p <:+: t.map fold) :
    ∃ s, s <:+ t ∧ p <+: s.map fold := by
  obtain ⟨v, hv, w, hw⟩ := List.infix_iff_prefix_suffix.mp h
  obtain ⟨a, b, rfl, -, rfl⟩ := List.map_eq_append_iff.mp hw.symm
  exact ⟨b, List.suffix_append a b, hv⟩

-- ---------------------------------------------------------------------------
-- The first match
-- ---------------------------------------------------------------------------

theorem search_eq_none_iff {α : Type} {m : Text → Option α} {t : Text} :
    search m t = none ↔ ∀ s, s <:+ t → m s = none := by
  induction t with
  | nil => simp [search]
  | cons c t ih =>
    rw [search]
    cases hm : m (c :: t) with
    | some a =>
      constructor
      · intro h
        simp at h
      · intro h
        rw [h _ (List.suffix_refl _)] at hm
        simp at hm
    | none =>
      rw [Option.map_eq_none_iff, ih]
      constructor
      · intro h s hs
        rcases List.suffix_cons_iff.mp hs with rfl | hs'
        · exact hm
        · exact h s hs'
      · intro h s hs
        exact h s (hs.trans (List.suffix_cons c t))

theorem search_eq_some_iff {α : Type} {m : Text → Option α} {t before : Text} {a : α} :
    search m t = some (before, a) ↔ ∃ rest, t = before ++ rest ∧ m rest = some a ∧
      ∀ s, s <:+ before → s ≠ [] → m (s ++ rest) = none := by
  induction t generalizing before with
  | nil =>
    rw [search, Option.map_eq_some_iff]
    constructor
    · rintro ⟨b, hb, he⟩
      obtain ⟨rfl, rfl⟩ : [] = before ∧ b = a := by simpa using he
      refine ⟨[], rfl, hb, ?_⟩
      intro s hs hne
      exact absurd (List.suffix_nil.mp hs) hne
    · rintro ⟨rest, ht, hm, -⟩
      obtain ⟨rfl, rfl⟩ := List.append_eq_nil_iff.mp ht.symm
      exact ⟨a, hm, rfl⟩
  | cons c t ih =>
    rw [search]
    cases hm : m (c :: t) with
    | some b =>
      constructor
      · intro h
        obtain ⟨rfl, rfl⟩ : [] = before ∧ b = a := by simpa using h
        refine ⟨c :: t, rfl, hm, ?_⟩
        intro s hs hne
        exact absurd (List.suffix_nil.mp hs) hne
      · rintro ⟨rest, ht, hma, hNone⟩
        cases before with
        | nil =>
          rw [List.nil_append] at ht
          rw [← ht, hm, Option.some.injEq] at hma
          rw [hma]
        | cons d before =>
          have := hNone _ (List.suffix_refl _) (List.cons_ne_nil d before)
          rw [← ht, hm] at this
          simp at this
    | none =>
      rw [Option.map_eq_some_iff]
      constructor
      · rintro ⟨⟨b, x⟩, hb, he⟩
        obtain ⟨rfl, rfl⟩ : c :: b = before ∧ x = a := by simpa using he
        obtain ⟨rest, rfl, hma, hNone⟩ := ih.mp hb
        refine ⟨rest, rfl, hma, ?_⟩
        intro s hs hne
        rcases List.suffix_cons_iff.mp hs with rfl | hs'
        · exact hm
        · exact hNone s hs' hne
      · rintro ⟨rest, ht, hma, hNone⟩
        cases before with
        | nil =>
          rw [List.nil_append] at ht
          rw [← ht, hm] at hma
          simp at hma
        | cons d before =>
          obtain ⟨rfl, rfl⟩ : c = d ∧ t = before ++ rest := by simpa using ht
          refine ⟨(before, a), ih.mpr ⟨rest, rfl, hma, ?_⟩, rfl⟩
          intro s hs hne
          exact hNone s (hs.trans (List.suffix_cons c before)) hne

/-- Where a matcher succeeds on the end of a text, it succeeds first there or before. -/
theorem exists_search_append {α : Type} {m : Text → Option α} {y : α} {b : Text}
    (h : m b = some y) (a : Text) :
    ∃ front w x, a = front ++ w ∧ m (w ++ b) = some x ∧ search m (a ++ b) = some (front, x) := by
  induction a with
  | nil =>
    refine ⟨[], [], y, rfl, h, ?_⟩
    cases b with
    | nil => rw [List.append_nil, search, h, Option.map_some]
    | cons c b => rw [List.nil_append, search, h]
  | cons c a ih =>
    cases hHere : m (c :: a ++ b) with
    | some x =>
      refine ⟨[], c :: a, x, rfl, hHere, ?_⟩
      rw [List.cons_append] at hHere ⊢
      rw [search, hHere]
    | none =>
      obtain ⟨front, w, x, rfl, hMatch, hSearch⟩ := ih
      refine ⟨c :: front, w, x, rfl, hMatch, ?_⟩
      rw [List.cons_append] at hHere ⊢
      rw [search, hHere, hSearch, Option.map_some]

theorem find?_of_some {α : Type} {m : Text → Option α} {t : Text} {a : α} (h : m t = some a) :
    find? m t = some a := by
  cases t with
  | nil => rw [find?, search, h, Option.map_some, Option.map_some]
  | cons c t => rw [find?, search, h, Option.map_some]

/-- Where a matcher fails, it is tried further on. -/
theorem find?_append_of_none {α : Type} {m : Text → Option α} {u : Text} (v : Text)
    (h : ∀ s, s <:+ u → s ≠ [] → m (s ++ v) = none) : find? m (u ++ v) = find? m v := by
  induction u with
  | nil => rfl
  | cons c u ih =>
    have hHere : m (c :: (u ++ v)) = none := h (c :: u) (List.suffix_refl _) (List.cons_ne_nil _ _)
    rw [← ih fun s hs hne => h s (hs.trans (List.suffix_cons c u)) hne, List.cons_append, find?,
      search, hHere, Option.map_map]
    rfl

-- ---------------------------------------------------------------------------
-- Seams
-- ---------------------------------------------------------------------------

/-- Where a text that starts with `x` follows, no occurrence of a pattern that has
`x` only in front begins before it, unless it ends before it too. -/
theorem not_prefix_over_seam {α : Type} {x : α} {p s b : List α} (hp : x ∉ p)
    (hs : s ≠ []) (h : ¬ (x :: p) <+: s) : ¬ (x :: p) <+: s ++ x :: b := by
  intro hPrefix
  rcases prefix_append_iff.mp hPrefix with hIn | ⟨q, hq, he⟩
  · exact h hIn
  · rcases List.prefix_cons_iff.mp hq with rfl | ⟨q', rfl, -⟩
    · -- the pattern ends with the seam
      rw [List.append_nil] at he
      exact h (he ▸ List.prefix_refl _)
    · obtain ⟨y, s', rfl⟩ := List.exists_cons_of_ne_nil hs
      rw [List.cons_append, List.cons.injEq] at he
      exact hp (he.2 ▸ by simp)

/-- No occurrence of a pattern begins where its first character does not stand. -/
theorem infix_of_append {α : Type} {x : α} {p a b : List α} (ha : x ∉ a)
    (h : (x :: p) <:+: a ++ b) : (x :: p) <:+: b := by
  induction a with
  | nil => exact h
  | cons y a ih =>
    rw [List.mem_cons, not_or] at ha
    rcases List.infix_cons_iff.mp h with hHere | hLater
    · exact absurd (List.cons_prefix_cons.mp hHere).1 ha.1
    · exact ih ha.2 hLater

/-- No occurrence of a pattern runs over a character that is none of its own. -/
theorem infix_append_cons_iff {α : Type} {p a b : List α} {c : α} (hc : c ∉ p) :
    p <:+: a ++ c :: b ↔ p <:+: a ∨ p <:+: b := by
  constructor
  · intro h
    induction a with
    | nil =>
      rcases List.infix_cons_iff.mp h with hHere | hLater
      · rcases List.prefix_cons_iff.mp hHere with rfl | ⟨q, rfl, -⟩
        · exact .inl List.infix_rfl
        · exact absurd (List.mem_cons_self ..) hc
      · exact .inr hLater
    | cons x a ih =>
      rcases List.infix_cons_iff.mp h with hHere | hLater
      · have hHere : p <+: (x :: a) ++ c :: b := hHere
        rcases prefix_append_iff.mp hHere with hIn | ⟨q, hq, rfl⟩
        · exact .inl hIn.isInfix
        · rcases List.prefix_cons_iff.mp hq with rfl | ⟨q, rfl, -⟩
          · rw [List.append_nil]
            exact .inl List.infix_rfl
          · simp at hc
      · exact (ih hLater).imp_left (·.trans (List.suffix_cons x a).isInfix)
  · rintro (h | h)
    · exact List.infix_append_of_infix_left h
    · exact List.infix_append_of_infix_right (h.trans (List.suffix_cons c b).isInfix)

/-- The pattern `p` and the text `m` have no end of one in common with a beginning of
the other, and neither holds the other. -/
structure Clear (p m : Text) : Prop where
  before : ∀ y ∈ p.tails, y ≠ [] → ¬ y <+: m ∧ ¬ m <+: y
  within : ∀ y ∈ m.tails, y ≠ [] → ¬ y <+: p ∧ ¬ p <+: y

variable {p m u : Text}

instance : Decidable (Clear p m) :=
  decidable_of_iff ((∀ y ∈ p.tails, y ≠ [] → ¬ y <+: m ∧ ¬ m <+: y) ∧
      ∀ y ∈ m.tails, y ≠ [] → ¬ y <+: p ∧ ¬ p <+: y)
    ⟨fun h => ⟨h.1, h.2⟩, fun h => ⟨h.before, h.within⟩⟩

/-- An occurrence of a clear pattern does not run on into the text. -/
theorem Clear.eq_nil_of_isPrefix (h : Clear p m) {y : Text} (hy : y <:+ p)
    (hPrefix : y <+: m ++ u) : y = [] := by
  by_contra hne
  obtain ⟨hIn, hOver⟩ := h.before y ((List.mem_tails _ _).mpr hy) hne
  rcases prefix_append_iff.mp hPrefix with hym | ⟨q, -, rfl⟩
  · exact hIn hym
  · exact hOver (List.prefix_append m q)

/-- A clear pattern does not begin in the text, whatever follows. -/
theorem Clear.not_isPrefix (h : Clear p m) {y : Text} (hy : y <:+ m) (hne : y ≠ []) :
    ¬ p <+: y ++ u := by
  intro hHere
  obtain ⟨hIn, hOver⟩ := h.within y ((List.mem_tails _ _).mpr hy) hne
  rcases prefix_append_iff.mp hHere with hp | ⟨q, -, rfl⟩
  · exact hOver hp
  · exact hIn (List.prefix_append y q)

/-- An occurrence of a clear pattern does not begin in the text. -/
theorem Clear.infix_of_append (h : Clear p m) (hInfix : p <:+: m ++ u) : p <:+: u := by
  have hFrom : ∀ n, n <:+ m → p <:+: n ++ u → p <:+: u := by
    intro n
    induction n with
    | nil =>
      intro _ hn
      exact hn
    | cons x n ih =>
      intro hSuffix hn
      rcases List.infix_cons_iff.mp hn with hHere | hLater
      · exact absurd hHere (h.not_isPrefix hSuffix (List.cons_ne_nil x n))
      · exact ih ((List.suffix_cons x n).trans hSuffix) hLater
  exact hFrom m (List.suffix_refl m) hInfix

/-- An occurrence of a clear pattern does not touch a text between two others. -/
theorem Clear.infix_of_between (h : Clear p m) {a : Text}
    (hInfix : p <:+: a ++ (m ++ u)) : p <:+: a ∨ p <:+: u := by
  induction a with
  | nil => exact .inr (h.infix_of_append hInfix)
  | cons c a ih =>
    rcases List.infix_cons_iff.mp hInfix with hHere | hLater
    · have hHere : p <+: (c :: a) ++ (m ++ u) := hHere
      rcases prefix_append_iff.mp hHere with hIn | ⟨q, hq, rfl⟩
      · exact .inl hIn.isInfix
      · have hNil := h.eq_nil_of_isPrefix (List.suffix_append _ q) hq
        rw [hNil, List.append_nil]
        exact .inl (List.infix_refl _)
    · exact (ih hLater).imp (·.trans (List.suffix_cons c a).isInfix) id

end Text

end SketchRepair
