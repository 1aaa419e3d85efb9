import SketchRepair.Proofs.Text.Occurrence

/-!
# SketchRepair — replacing the first occurrence

A text that is replaced where it stands first is replaced in the right place exactly if
the right place is the first. That is not quite obvious: in a text that repeats itself,
two places might give the same result. Then both the old text and the new one would
repeat the same period, and one of them would begin with the other.

* `cut?_first`, `cut?_of_first`, `exists_replaceFirst` — a text is cut at its first occurrence;
* `prefix_or_prefix_of_repeating` — of two texts with the same period, one begins with
  the other;
* `replaceFirst_eq_iff` — when a text is replaced in a given place.
-/

namespace SketchRepair

namespace Text

variable {p t x y z old new before rest : Text}

/-- A text stands nowhere before the place at which it is cut out. -/
theorem cut?_first (h : cut? p t = some (before, rest)) :
    ∀ a b, t = a ++ p ++ b → before.length ≤ a.length := by
  induction t generalizing before with
  | nil =>
    intro a b _
    obtain ⟨hBefore, -⟩ := List.append_eq_nil_iff.mp (List.append_eq_nil_iff.mp
      (cut?_eq_some h).symm).1
    rw [hBefore]
    exact Nat.zero_le _
  | cons c t ih =>
    intro a b ht
    rw [cut?] at h
    split at h
    · obtain ⟨rfl, -⟩ : [] = before ∧ _ := by simpa using h
      exact Nat.zero_le _
    · next hNone =>
      obtain ⟨⟨front, behind⟩, hCut, he⟩ := Option.map_eq_some_iff.mp h
      obtain ⟨rfl, rfl⟩ := Prod.mk.inj he
      cases a with
      | nil =>
        -- then it would have been found at the beginning
        rw [List.nil_append] at ht
        rw [after?_eq_some.mpr ht] at hNone
        simp at hNone
      | cons d a =>
        obtain ⟨-, ht⟩ := List.cons_eq_cons.mp ht
        exact Nat.succ_le_succ (ih hCut a b ht)

/-- A text is cut where it stands, if it does not begin before. -/
theorem cut?_of_first (h : ¬ p <:+: before ++ p.dropLast) :
    cut? p (before ++ p ++ rest) = some (before, rest) := by
  obtain ⟨⟨front, behind⟩, hCut⟩ := Option.isSome_iff_exists.mp (has_iff.mpr ⟨before, rest, rfl⟩)
  have hText := cut?_eq_some hCut
  have hFirst := cut?_first hCut before rest rfl
  suffices hLength : before.length = front.length by
    rw [List.append_assoc before, List.append_assoc front] at hText
    obtain ⟨rfl, hBehind⟩ := List.append_inj hText hLength
    rw [hCut, List.append_cancel_left hBehind]
  by_contra hne
  -- the place where it is cut would be an earlier one
  have hFront : front ++ p <+: before ++ p ++ rest := ⟨behind, hText.symm⟩
  have hBefore : before ++ p.dropLast <+: before ++ p ++ rest :=
    ((List.prefix_append_right_inj before).mpr (List.dropLast_prefix p)).trans
      (List.prefix_append _ rest)
  have hEarlier : front ++ p <+: before ++ p.dropLast := by
    refine List.prefix_of_prefix_length_le hFront hBefore ?_
    rw [List.length_append, List.length_append, List.length_dropLast]
    omega
  exact h ((List.suffix_append front p).isInfix.trans hEarlier.isInfix)

/-- A text that stands somewhere stands somewhere first, and is replaced there. -/
theorem exists_replaceFirst (h : has old t = true) : ∃ before rest, t = before ++ old ++ rest ∧
    (∀ a b, t = a ++ old ++ b → before.length ≤ a.length) ∧
      ∀ new, replaceFirst old new t = before ++ new ++ rest := by
  obtain ⟨⟨before, rest⟩, hCut⟩ := Option.isSome_iff_exists.mp h
  exact ⟨before, rest, cut?_eq_some hCut, cut?_first hCut, fun new => by rw [replaceFirst, hCut]⟩

/-- A text is replaced where it stands first. -/
theorem replaceFirst_of_first
    (hFirst : ∀ a b, x ++ old ++ y = a ++ old ++ b → x.length ≤ a.length) :
    replaceFirst old new (x ++ old ++ y) = x ++ new ++ y := by
  obtain ⟨before, rest, hText, hNowhere, hSame⟩ := exists_replaceFirst (has_iff.mpr ⟨x, y, rfl⟩)
  have hLength := Nat.le_antisymm (hFirst before rest hText) (hNowhere x y rfl)
  rw [List.append_assoc, List.append_assoc] at hText
  obtain ⟨rfl, hBehind⟩ := List.append_inj hText hLength
  rw [hSame, List.append_cancel_left hBehind]

/-- Of two texts that repeat what `z` is, the shorter begins the longer. -/
theorem prefix_of_repeating (hz : z ≠ []) (hx : x <+: z ++ x) (hy : y <+: z ++ y)
    (hLength : x.length ≤ y.length) : x <+: y := by
  have hPositive := List.length_pos_iff.mpr hz
  induction hn : x.length using Nat.strongRecOn generalizing x y with
  | ind n ih =>
    rcases prefix_append_iff.mp hx with hxz | ⟨u, hu, rfl⟩
    · exact List.prefix_of_prefix_length_le (hxz.trans (List.prefix_append z y)) hy hLength
    rw [List.length_append] at hLength hn
    -- both begin with `z`, and what follows repeats it again
    obtain ⟨v, rfl⟩ : z <+: y :=
      List.prefix_of_prefix_length_le (List.prefix_append z y) hy (by omega)
    rw [List.length_append] at hLength
    have hv : v <+: z ++ v := (List.prefix_append_right_inj z).mp hy
    exact (List.prefix_append_right_inj z).mpr
      (ih u.length (by omega) hu hv (by omega) rfl)

theorem prefix_or_prefix_of_repeating (hz : z ≠ []) (hx : x <+: z ++ x) (hy : y <+: z ++ y) :
    x <+: y ∨ y <+: x := by
  rcases Nat.le_total x.length y.length with hLength | hLength
  · exact .inl (prefix_of_repeating hz hx hy hLength)
  · exact .inr (prefix_of_repeating hz hy hx hLength)

/-- A text is replaced in a given place exactly if it stands nowhere before it, when it and
the new text do not begin one with the other. -/
theorem replaceFirst_eq_iff (hOld : ¬ old <+: new) (hNew : ¬ new <+: old) :
    replaceFirst old new (x ++ old ++ y) = x ++ new ++ y ↔
      ∀ a b, x ++ old ++ y = a ++ old ++ b → x.length ≤ a.length := by
  refine ⟨fun hSame => ?_, replaceFirst_of_first⟩
  obtain ⟨before, rest, hText, hFirst, hReplaced⟩ :=
    exists_replaceFirst (has_iff.mpr ⟨x, y, rfl⟩)
  rw [hReplaced] at hSame
  suffices hPlace : x.length ≤ before.length from fun a b h => Nat.le_trans hPlace (hFirst a b h)
  by_contra hLater
  -- what is between the two places would be repeated by the old text and by the new one
  obtain ⟨z, rfl⟩ : before <+: x := by
    have hBefore : before <+: x ++ (old ++ y) := ⟨old ++ rest, by simpa using hText.symm⟩
    exact List.prefix_of_prefix_length_le hBefore (List.prefix_append x _) (by omega)
  have hz : z ≠ [] := by
    rintro rfl
    simp at hLater
  simp only [List.append_assoc, List.append_cancel_left_eq] at hText hSame
  have hOldAgain : old <+: z ++ old :=
    List.prefix_of_prefix_length_le (List.prefix_append old rest)
      (hText ▸ ⟨y, by simp⟩) (by simp)
  have hNewAgain : new <+: z ++ new :=
    List.prefix_of_prefix_length_le (List.prefix_append new rest)
      (hSame ▸ ⟨y, by simp⟩) (by simp)
  exact (prefix_or_prefix_of_repeating hz hOldAgain hNewAgain).elim hOld hNew

end Text

end SketchRepair
