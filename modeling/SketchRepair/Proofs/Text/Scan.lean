import SketchRepair.Proofs.Text.Occurrence

/-!
# SketchRepair — all matches in a text

The matches of a text are taken from left to right, each where it is found first, and the
search goes on behind it. So the matches that are listed do not overlap, and one that is
not listed begins within one that is.

* `Scan` — what is taken, by rules;
* `spansFrom_of_match`, `spansFrom_append_of_none` — the search goes on behind a match, and
  behind a text without one;
* `spans_scan` — the search follows the rules;
* `Scan.sound`, `Scan.ordered`, `Scan.covers` — what is listed matches, in order, and
  covers every match.
-/

namespace SketchRepair

namespace Text

/-- What the matcher takes is not empty, and stands in the text. -/
structure Solid (m : Option Char → Text → Option Nat) : Prop where
  pos : ∀ {prev t n}, m prev t = some n → 0 < n
  le : ∀ {prev t n}, m prev t = some n → n ≤ t.length

/-- The matches that are taken from a text behind another one. -/
inductive Scan (m : Option Char → Text → Option Nat) : (passed t : Text) →
    List (Nat × Nat) → Prop where
  | done {a : Text} (hEnd : m a.getLast? [] = none) : Scan m a [] []
  | hit {a v t : Text} {ss : List (Nat × Nat)} (hHere : m a.getLast? (v ++ t) = some v.length)
      (hSolid : v ≠ []) (hRest : Scan m (a ++ v) t ss) :
      Scan m a (v ++ t) ((a.length, a.length + v.length) :: ss)
  | skip {a t : Text} {c : Char} {ss : List (Nat × Nat)}
      (hNone : m a.getLast? (c :: t) = none) (hRest : Scan m (a ++ [c]) t ss) :
      Scan m a (c :: t) ss

variable {m : Option Char → Text → Option Nat} {a t : Text} {ss : List (Nat × Nat)}

/-- Behind a match that covers a text, the search goes on at its end. -/
theorem spansFrom_append (v t : Text) : ∀ (i : Nat) (prev : Option Char),
    spansFrom m v.length i prev (v ++ t) =
      spansFrom m 0 (i + v.length) (prev.toList ++ v).getLast? t := by
  induction v with
  | nil =>
    intro i prev
    cases prev <;> rfl
  | cons c v ih =>
    intro i prev
    rw [List.length_cons, List.cons_append, spansFrom, ih, List.getLast?_append_cons,
      Nat.add_assoc, Nat.add_comm 1]
    rfl

/-- What matches is listed, and the search goes on at its end. -/
theorem spansFrom_of_match {v : Text} {prev : Option Char} (hHere : m prev (v ++ t) = some v.length)
    (hv : v ≠ []) (i : Nat) : spansFrom m 0 i prev (v ++ t) =
      (i, i + v.length) :: spansFrom m 0 (i + v.length) (prev.toList ++ v).getLast? t := by
  obtain ⟨c, v, rfl⟩ := List.exists_cons_of_ne_nil hv
  rw [List.cons_append] at hHere ⊢
  rw [spansFrom, hHere, List.length_cons]
  dsimp only
  rw [Nat.add_sub_cancel, spansFrom_append, List.getLast?_append_cons, Nat.add_comm v.length,
    ← Nat.add_assoc]
  rfl

/-- Where the matcher fails, nothing is listed. -/
theorem spansFrom_append_of_none {u : Text} (v : Text)
    (h : ∀ s, s <:+ u → s ≠ [] → ∀ prev, m prev (s ++ v) = none) :
    ∀ (i : Nat) (prev : Option Char), spansFrom m 0 i prev (u ++ v) =
      spansFrom m 0 (i + u.length) (prev.toList ++ u).getLast? v := by
  induction u with
  | nil =>
    intro i prev
    cases prev <;> rfl
  | cons c u ih =>
    intro i prev
    have hHere := h (c :: u) (List.suffix_refl _) (List.cons_ne_nil _ _) prev
    have hRest := ih fun s hs hne => h s (hs.trans (List.suffix_cons c u)) hne
    rw [List.cons_append] at hHere ⊢
    rw [spansFrom, hHere, List.length_cons, List.getLast?_append_cons, Nat.add_comm u.length,
      ← Nat.add_assoc]
    exact hRest (i + 1) (some c)

theorem spansFrom_scan (hm : Solid m) (t : Text) : ∀ a : Text,
    Scan m a t (spansFrom m 0 a.length a.getLast? t) := by
  induction hn : t.length using Nat.strongRecOn generalizing t with
  | ind n ih =>
    intro a
    cases t with
    | nil =>
      have hEnd : ∀ prev, m prev [] = none := by
        intro prev
        by_contra hSome
        obtain ⟨k, hk⟩ := Option.ne_none_iff_exists'.mp hSome
        exact Nat.not_lt.mpr (hm.le hk) (hm.pos hk)
      rw [spansFrom, if_neg (by rw [hEnd]; simp)]
      exact .done (hEnd _)
    | cons c t =>
      rw [spansFrom]
      cases hHere : m a.getLast? (c :: t) with
      | none =>
        have hRest := ih t.length (by rw [← hn]; exact Nat.lt_succ_self _) t rfl (a ++ [c])
        rw [List.length_append, List.getLast?_concat] at hRest
        exact .skip hHere hRest
      | some k =>
        -- the match is the character here and some of those that follow
        obtain ⟨j, rfl⟩ : ∃ j, k = j + 1 := Nat.exists_eq_add_one.mpr (hm.pos hHere)
        have hLength : (t.take j).length = j :=
          List.length_take_of_le (Nat.le_of_succ_le_succ (hm.le hHere))
        have hSplit := List.take_append_drop j t
        generalize t.take j = v at hLength hSplit
        generalize t.drop j = u at hSplit
        subst hLength hSplit
        have hRest := ih u.length (by simp at hn; omega) u rfl (a ++ c :: v)
        rw [List.length_append, List.length_cons, List.getLast?_append_cons] at hRest
        dsimp only
        rw [Nat.add_sub_cancel, spansFrom_append, Nat.add_assoc, Nat.add_comm 1]
        exact .hit (v := c :: v) hHere (List.cons_ne_nil c v) hRest

/-- The search takes matches by the rules. -/
theorem spans_scan (hm : Solid m) (t : Text) : Scan m [] t (spans m t) :=
  spansFrom_scan hm t []

namespace Scan

/-- What is listed matches where it is said to. -/
theorem sound (h : Scan m a t ss) : ∀ s ∈ ss, a.length ≤ s.1 ∧ ∃ x y z,
    a ++ t = x ++ (y ++ z) ∧ x.length = s.1 ∧ s.2 = s.1 + y.length ∧ y ≠ [] ∧
      m x.getLast? (y ++ z) = some y.length := by
  induction h with
  | done =>
    intro s hs
    simp at hs
  | @hit a v t ss hHere hSolid _ ih =>
    intro s hs
    rcases List.mem_cons.mp hs with rfl | hs
    · exact ⟨Nat.le_refl _, a, v, t, rfl, rfl, rfl, hSolid, hHere⟩
    · obtain ⟨hFrom, hMatch⟩ := ih s hs
      rw [List.length_append] at hFrom
      rw [List.append_assoc] at hMatch
      exact ⟨Nat.le_of_add_right_le hFrom, hMatch⟩
  | @skip a t c ss _ _ ih =>
    intro s hs
    obtain ⟨hFrom, hMatch⟩ := ih s hs
    rw [List.length_append] at hFrom
    rw [List.append_assoc] at hMatch
    exact ⟨Nat.le_of_add_right_le hFrom, hMatch⟩

/-- What is listed does not overlap, and is in order. -/
theorem ordered (h : Scan m a t ss) : ss.Pairwise fun s s' => s.2 ≤ s'.1 := by
  induction h with
  | done => exact List.Pairwise.nil
  | hit _ _ hRest ih =>
    refine List.pairwise_cons.mpr ⟨fun s hs => ?_, ih⟩
    have hFrom := (hRest.sound s hs).1
    rwa [List.length_append] at hFrom
  | skip _ _ ih => exact ih

/-- Every match begins within one that is listed. -/
theorem covers (h : Scan m a t ss) : ∀ x y, a ++ t = x ++ y → a.length ≤ x.length →
    m x.getLast? y ≠ none → ∃ s ∈ ss, s.1 ≤ x.length ∧ x.length < s.2 := by
  induction h with
  | @done a hEnd =>
    intro x y hText hFrom hMatch
    rw [List.append_nil] at hText
    obtain rfl : y = [] := by
      have := congrArg List.length hText
      rw [List.length_append] at this
      exact List.length_eq_zero_iff.mp (by omega)
    rw [List.append_nil] at hText
    exact absurd (hText ▸ hEnd) hMatch
  | @hit a v t ss _ _ _ ih =>
    intro x y hText hFrom hMatch
    by_cases hWithin : x.length < a.length + v.length
    · exact ⟨_, List.mem_cons_self .., hFrom, hWithin⟩
    · rw [← List.append_assoc] at hText
      obtain ⟨s, hs, hCover⟩ :=
        ih x y hText (by rw [List.length_append]; exact Nat.not_lt.mp hWithin) hMatch
      exact ⟨s, List.mem_cons_of_mem _ hs, hCover⟩
  | @skip a t c ss hNone _ ih =>
    intro x y hText hFrom hMatch
    rcases Nat.eq_or_lt_of_le hFrom with hHere | hLater
    · obtain ⟨rfl, rfl⟩ := List.append_inj hText hHere
      exact absurd hNone hMatch
    · rw [List.append_cons] at hText
      exact ih x y hText (by rw [List.length_append]; exact hLater) hMatch

end Scan

end Text

end SketchRepair
