import SketchRepair.Proofs.Script.Unmatched

/-!
# SketchRepair — which parentheses match each other

Two parentheses match each other when what stands between them is balanced. One that
matches no other is alone: left open, or stray. Nothing of this mentions a scan with a
stack.

Texts stand apart when no parenthesis of one matches one of the other. Then the pairs
of the two together, and what has no partner, are those of each.

* `Paired.append_left`, `Paired.append_right` — pairs of a part are pairs of the whole;
* `apart_of_balanced`, `apart_close`, `apart_open` — a balanced text stands apart from
  what follows; so does a stray parenthesis, and an open one that is never closed;
* `lone_append_iff` — what has no partner, part by part;
* `Balanced.not_lone_open`, `Balanced.not_lone_close` — nothing in a balanced text.
-/

namespace SketchRepair

namespace Script

/-- The parentheses at two offsets match each other. -/
def Paired (t : Text) (i j : Nat) : Prop :=
  ∃ a b c, t = a ++ '(' :: (b ++ ')' :: c) ∧ Balanced b ∧ i = a.length ∧ j = i + 1 + b.length

/-- The parenthesis `c` at an offset matches no other. -/
def Lone (c : Char) (t : Text) (k : Nat) : Prop :=
  t[k]? = some c ∧ ∀ i j, Paired t i j → i ≠ k ∧ j ≠ k

/-- No parenthesis of the first text matches one of the second, which follows it. -/
def Apart (a t : Text) : Prop :=
  ∀ i j, Paired (a ++ t) i j →
    Paired a i j ∨ ∃ i' j', i = a.length + i' ∧ j = a.length + j' ∧ Paired t i' j'

variable {a b t u : Text} {i j : Nat} {js : List Nat}

-- ---------------------------------------------------------------------------
-- Pairs of a part
-- ---------------------------------------------------------------------------

theorem Paired.append_left (h : Paired t i j) (a : Text) :
    Paired (a ++ t) (a.length + i) (a.length + j) := by
  obtain ⟨x, b, c, rfl, hb, rfl, rfl⟩ := h
  exact ⟨a ++ x, b, c, by simp, hb, by simp, by omega⟩

theorem Paired.append_right (h : Paired t i j) (c : Text) : Paired (t ++ c) i j := by
  obtain ⟨x, b, d, rfl, hb, hi, hj⟩ := h
  exact ⟨x, b, d ++ c, by simp, hb, hi, hj⟩

theorem Paired.lt (h : Paired t i j) : i < j ∧ j < t.length := by
  obtain ⟨x, b, c, rfl, -, rfl, rfl⟩ := h
  simp only [List.length_append, List.length_cons]
  omega

theorem Paired.getElem? (h : Paired t i j) : t[i]? = some '(' ∧ t[j]? = some ')' := by
  obtain ⟨x, b, c, rfl, -, rfl, rfl⟩ := h
  constructor
  · rw [List.getElem?_append_right (Nat.le_refl _), Nat.sub_self, List.getElem?_cons_zero]
  · rw [Nat.add_assoc, Nat.add_comm 1, List.getElem?_append_right (Nat.le_add_right ..),
      Nat.add_sub_cancel_left, List.getElem?_cons_succ, List.getElem?_append_right (Nat.le_refl _),
      Nat.sub_self, List.getElem?_cons_zero]

/-- No end of a balanced text opens more than it closes. -/
theorem Balanced.end_le (h : Balanced (a ++ u)) : u.count '(' ≤ u.count ')' := by
  have hWhole := h.closed
  have hBegin := h.opened a (List.prefix_append a u)
  rw [List.count_append, List.count_append] at hWhole
  omega

-- ---------------------------------------------------------------------------
-- Texts that stand apart
-- ---------------------------------------------------------------------------

theorem apart_of_balanced (ha : Balanced a) (t : Text) : Apart a t := by
  rintro i j ⟨x, b, c, hText, hb, rfl, rfl⟩
  rcases List.append_eq_append_iff.mp hText with ⟨y, rfl, rfl⟩ | ⟨y, rfl, hRest⟩
  · exact .inr ⟨y.length, y.length + 1 + b.length, by simp, by simp; omega,
      y, b, c, rfl, hb, rfl, rfl⟩
  rcases List.cons_eq_append_iff.mp hRest with ⟨rfl, rfl⟩ | ⟨r, rfl, hBehind⟩
  · exact .inr ⟨0, 1 + b.length, by simp, by simp; omega, [], b, c, rfl, hb, rfl, by simp⟩
  -- the pair begins in the balanced text, so it has to end there
  have hEnd : r.count '(' < r.count ')' := by
    have := ha.end_le
    simp only [List.count_cons_self, List.count_cons_of_ne (show '(' ≠ ')' by decide)] at this
    omega
  have hNotIn : ¬ r <+: b := fun hr => by
    have := hb.opened r hr
    omega
  rcases List.append_eq_append_iff.mp hBehind with ⟨z, rfl, hz⟩ | ⟨z, rfl, -⟩
  · rcases List.cons_eq_append_iff.mp hz with ⟨rfl, -⟩ | ⟨z, rfl, -⟩
    · exact absurd (by simp) hNotIn
    · exact .inl ⟨x, b, z, rfl, hb, rfl, rfl⟩
  · exact absurd (List.prefix_append r z) hNotIn

/-- A pair begins with the first character of a text, or all of it stands behind. -/
theorem Paired.cases_cons {x : Char} (h : Paired (x :: t) i j) :
    (x = '(' ∧ ∃ b c, t = b ++ ')' :: c ∧ Balanced b) ∨
      ∃ i' j', i = 1 + i' ∧ j = 1 + j' ∧ Paired t i' j' := by
  obtain ⟨a, b, c, hText, hb, rfl, rfl⟩ := h
  cases a with
  | nil =>
    obtain ⟨rfl, rfl⟩ := List.cons_eq_cons.mp hText
    exact .inl ⟨rfl, b, c, rfl, hb⟩
  | cons y a =>
    obtain ⟨rfl, rfl⟩ := List.cons_eq_cons.mp hText
    exact .inr ⟨a.length, a.length + 1 + b.length, by simp; omega, by simp; omega, a, b, c, rfl,
      hb, rfl, rfl⟩

theorem apart_close (t : Text) : Apart [')'] t := by
  intro i j h
  rcases Paired.cases_cons h with ⟨hx, -⟩ | hBehind
  · exact absurd hx (by decide)
  · exact .inr hBehind

/-- An opening parenthesis stands apart from a text that never closes more than it
opens. -/
theorem apart_open (ht : ∀ p, p <+: t → p.count ')' ≤ p.count '(') : Apart ['('] t := by
  intro i j h
  rcases Paired.cases_cons h with ⟨-, b, c, rfl, hb⟩ | hBehind
  · have hOver := ht (b ++ [')']) ⟨c, by simp⟩
    rw [List.count_append, List.count_append, hb.closed] at hOver
    exact absurd hOver (by simp)
  · exact .inr hBehind

/-- Where nothing is stray, no beginning closes more than it opens. -/
theorem LeftOpen.opened (h : LeftOpen i t js) : ∀ p, p <+: t → p.count ')' ≤ p.count '(' := by
  induction h with
  | none hb => exact hb.opened
  | some hb _ _ ih =>
    intro p hp
    rcases Text.prefix_append_iff.mp hp with hpb | ⟨q, hq, rfl⟩
    · exact hb.opened p hpb
    · rw [List.count_append, List.count_append, hb.closed]
      rcases List.prefix_cons_iff.mp hq with rfl | ⟨r, rfl, hr⟩
      · exact Nat.le_refl _
      · have := ih r hr
        rw [List.count_cons_of_ne (by decide), List.count_cons_self]
        omega

-- ---------------------------------------------------------------------------
-- Without a partner
-- ---------------------------------------------------------------------------

theorem lone_append_iff {c : Char} {k : Nat} (hApart : Apart a t) :
    Lone c (a ++ t) k ↔ Lone c a k ∨ ∃ k', k = a.length + k' ∧ Lone c t k' := by
  by_cases hk : k < a.length
  · have hAt : (a ++ t)[k]? = a[k]? := List.getElem?_append_left hk
    constructor
    · rintro ⟨hc, hNone⟩
      exact .inl ⟨hAt ▸ hc, fun i j h => hNone i j (h.append_right t)⟩
    · rintro (⟨hc, hNone⟩ | ⟨k', rfl, -⟩)
      · refine ⟨hAt ▸ hc, fun i j h => ?_⟩
        rcases hApart i j h with hIn | ⟨i', j', rfl, rfl, -⟩
        · exact hNone i j hIn
        · omega
      · omega
  · obtain ⟨k', rfl⟩ := Nat.exists_eq_add_of_le (Nat.not_lt.mp hk)
    have hAt : (a ++ t)[a.length + k']? = t[k']? := by
      rw [List.getElem?_append_right (Nat.le_add_right ..), Nat.add_sub_cancel_left]
    constructor
    · rintro ⟨hc, hNone⟩
      refine .inr ⟨k', rfl, hAt ▸ hc, fun i j h => ?_⟩
      have := hNone _ _ (h.append_left a)
      omega
    · rintro (⟨hc, -⟩ | ⟨l, hl, hc, hNone⟩)
      · exact absurd (List.getElem?_eq_some_iff.mp hc).1 hk
      · obtain rfl : k' = l := by omega
        refine ⟨hAt ▸ hc, fun i j h => ?_⟩
        rcases hApart i j h with hIn | ⟨i', j', rfl, rfl, hBehind⟩
        · have := hIn.lt
          omega
        · have := hNone i' j' hBehind
          omega

theorem lone_singleton_iff {c d : Char} {k : Nat} : Lone c [d] k ↔ c = d ∧ k = 0 := by
  constructor
  · rintro ⟨hAt, -⟩
    rw [List.getElem?_singleton] at hAt
    split at hAt
    · next hk => exact ⟨(Option.some.inj hAt).symm, hk⟩
    · exact absurd hAt (by simp)
  · rintro ⟨rfl, rfl⟩
    refine ⟨rfl, fun i j h => ?_⟩
    have := h.lt
    rw [List.length_singleton] at this
    omega

theorem exists_of_getElem? {c : Char} {k : Nat} (h : t[k]? = some c) :
    ∃ a b, t = a ++ c :: b ∧ a.length = k := by
  obtain ⟨hk, rfl⟩ := List.getElem?_eq_some_iff.mp h
  exact ⟨t.take k, t.drop (k + 1), by simp, by simp; omega⟩

/-- Where nothing is stray, the text is balanced or ends so behind a parenthesis that is
left open. -/
theorem LeftOpen.cases_last (h : LeftOpen i t js) :
    Balanced t ∨ ∃ a b, t = a ++ '(' :: b ∧ Balanced b := by
  induction h with
  | none hb => exact .inl hb
  | @some i j b t js hb _ _ ih =>
    rcases ih with ht | ⟨x, y, rfl, hy⟩
    · exact .inr ⟨b, t, rfl, ht⟩
    · exact .inr ⟨b ++ '(' :: x, y, by simp, hy⟩

/-- In a balanced text every parenthesis that is opened is closed. -/
theorem Balanced.not_lone_open {k : Nat} (h : Balanced t) : ¬ Lone '(' t k := by
  rintro ⟨hAt, hNone⟩
  obtain ⟨a, b, rfl, rfl⟩ := exists_of_getElem? hAt
  obtain ⟨issues, hUnmatched⟩ := exists_unmatched b 0
  cases hUnmatched with
  | opens hOpen =>
    -- what follows closes no more than it opens, so the one at hand stays open
    have hBehind := hOpen.opened b (List.prefix_refl b)
    have hEnd := h.end_le
    rw [List.count_cons_self, List.count_cons_of_ne (by decide)] at hEnd
    omega
  | @stray _ _ m r _ hb _ _ =>
    exact (hNone _ _ ⟨a, m, r, rfl, hb, rfl, rfl⟩).1 rfl

/-- In a balanced text every parenthesis that is closed was opened. -/
theorem Balanced.not_lone_close {k : Nat} (h : Balanced t) : ¬ Lone ')' t k := by
  rintro ⟨hAt, hNone⟩
  obtain ⟨a, b, rfl, rfl⟩ := exists_of_getElem? hAt
  have hOver := h.opened (a ++ [')']) ⟨b, by simp⟩
  rw [List.count_append, List.count_append] at hOver
  obtain ⟨issues, hUnmatched⟩ := exists_unmatched a 0
  cases hUnmatched with
  | opens hOpen =>
    rcases hOpen.cases_last with ha | ⟨x, m, rfl, hm⟩
    · rw [ha.closed] at hOver
      exact absurd hOver (by simp)
    · exact (hNone _ _ ⟨x, m, b, by simp, hm, rfl, rfl⟩).2 (by simp; omega)
  | @stray _ _ m r _ hb _ _ =>
    have hFirst := h.opened (m ++ [')']) ⟨r ++ ')' :: b, by simp⟩
    rw [List.count_append, List.count_append, hb.closed] at hFirst
    exact absurd hFirst (by simp)

end Script

end SketchRepair
