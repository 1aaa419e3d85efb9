import SketchRepair.Proofs.Text.Lines
import SketchRepair.Proofs.Text.Occurrence

/-!
# SketchRepair — nesting

Brackets of one kind nest in a text when none is closed that was not opened, and none
is left open. Whatever else stands between them does not matter, and neither do other
kinds of brackets.

* `Nested.append`, `Nested.cons_of_ne` — texts one behind the other;
* `Nested.close` — an opening bracket before a nested text may be closed anywhere;
* `Nested.exists_close` — what is opened in a nested text is closed in it;
* `Nested.remove` — what opens as often as it closes may be taken out anywhere;
* `nested_congr`, `nested_unlines_iff` — only the brackets count.
-/

namespace SketchRepair

namespace Script

/-- The brackets `o` and `c` nest in the text. -/
structure Nested (o c : Char) (t : Text) : Prop where
  /-- None is left open. -/
  closed : t.count c = t.count o
  /-- None is closed that was not opened. -/
  opened : ∀ p, p <+: t → p.count c ≤ p.count o

variable {o c : Char} {a b t v : Text}

theorem nested_nil : Nested o c [] where
  closed := rfl
  opened := by
    intro p hp
    rw [List.prefix_nil.mp hp]
    exact Nat.le_refl _

/-- A text without brackets is nested. -/
theorem nested_of_not_mem (ho : o ∉ t) (hc : c ∉ t) : Nested o c t where
  closed := by rw [List.count_eq_zero.mpr ho, List.count_eq_zero.mpr hc]
  opened := by
    intro p hp
    rw [List.count_eq_zero.mpr fun h => hc (hp.subset h)]
    exact Nat.zero_le _

theorem Nested.append (ha : Nested o c a) (hb : Nested o c b) : Nested o c (a ++ b) where
  closed := by rw [List.count_append, List.count_append, ha.closed, hb.closed]
  opened := by
    intro p hp
    rcases Text.prefix_append_iff.mp hp with hpa | ⟨q, hq, rfl⟩
    · exact ha.opened p hpa
    · rw [List.count_append, List.count_append, ha.closed]
      exact Nat.add_le_add_left (hb.opened q hq) _

theorem Nested.cons_of_ne {x : Char} (ho : x ≠ o) (hc : x ≠ c) (h : Nested o c t) :
    Nested o c (x :: t) := by
  have hx : Nested o c [x] := nested_of_not_mem (by simp [ho.symm]) (by simp [hc.symm])
  exact hx.append h

/-- An opening bracket before a nested text may be closed anywhere in it. -/
theorem Nested.close (hne : o ≠ c) (h : Nested o c (a ++ b)) :
    Nested o c (o :: (a ++ c :: b)) where
  closed := by
    have := h.closed
    rw [List.count_append, List.count_append] at this
    simp only [List.count_cons, List.count_append, beq_self_eq_true, if_true, beq_iff_eq, hne,
      hne.symm, if_false]
    omega
  opened := by
    intro p hp
    rcases List.prefix_cons_iff.mp hp with rfl | ⟨q, rfl, hq⟩
    · exact Nat.le_refl _
    · -- the one opened in front makes up for the one closed
      have hq' : q.count c ≤ q.count o + 1 := by
        rcases Text.prefix_append_iff.mp hq with hqa | ⟨r, hr, rfl⟩
        · exact Nat.le_succ_of_le (h.opened q (List.prefix_append_of_prefix hqa))
        · rcases List.prefix_cons_iff.mp hr with rfl | ⟨u, rfl, hu⟩
          · have := h.opened a (List.prefix_append a b)
            rw [List.append_nil]
            omega
          · have := h.opened (a ++ u) ((List.prefix_append_right_inj a).mpr hu)
            rw [List.count_append, List.count_append] at this
            simp only [List.count_append, List.count_cons, beq_self_eq_true, if_true, beq_iff_eq,
              hne.symm, if_false]
            omega
      simp only [List.count_cons, beq_self_eq_true, if_true, beq_iff_eq, hne, if_false]
      omega

/-- Where nothing closes a bracket, no beginning of what follows it closes more than it opens. -/
theorem count_le_of_unclosed (h : ∀ u v, t = u ++ c :: v → ¬ Nested o c u) :
    ∀ p, p <+: t → p.count c ≤ p.count o := by
  intro p
  induction hn : p.length using Nat.strongRecOn generalizing p with
  | ind n ih =>
    intro hp
    rcases List.eq_nil_or_concat p with rfl | ⟨q, x, rfl⟩
    · exact Nat.le_refl _
    rw [List.concat_eq_append] at hn hp ⊢
    obtain ⟨v, hv⟩ := hp
    rw [List.append_assoc, List.singleton_append] at hv
    have hShorter : ∀ r, r <+: q → r.count c ≤ r.count o := fun r hr =>
      ih r.length (by rw [← hn, List.length_append]; exact Nat.lt_succ_of_le hr.length_le) r rfl
        (hr.trans ⟨x :: v, hv⟩)
    have hq := hShorter q (List.prefix_refl q)
    rw [List.count_append, List.count_append]
    by_cases hx : x = c
    · subst hx
      -- were as many closed as opened, this one would close the bracket
      have hne : q.count x ≠ q.count o := fun hEven => h q v hv.symm ⟨hEven, hShorter⟩
      rw [List.count_singleton_self]
      omega
    · rw [List.count_singleton, if_neg (by simpa using hx)]
      omega

/-- In a nested text every bracket that is opened is closed. -/
theorem Nested.exists_close (h : Nested o c (a ++ o :: b)) (hne : o ≠ c) :
    ∃ u v, b = u ++ c :: v ∧ Nested o c u := by
  by_contra hNone
  have hUnclosed : ∀ u v, b = u ++ c :: v → ¬ Nested o c u := fun u v hb hu =>
    hNone ⟨u, v, hb, hu⟩
  have hBefore := h.opened a (List.prefix_append a _)
  have hBehind := count_le_of_unclosed hUnclosed b (List.prefix_refl b)
  have hWhole := h.closed
  rw [List.count_append, List.count_append, List.count_cons_self,
    List.count_cons_of_ne hne] at hWhole
  omega

/-- What opens as often as it closes may be taken out. -/
theorem Nested.remove (hv : v.count o = v.count c) (h : Nested o c (a ++ v ++ b)) :
    Nested o c (a ++ b) where
  closed := by
    have := h.closed
    simp only [List.count_append] at this ⊢
    omega
  opened := by
    intro p hp
    rcases Text.prefix_append_iff.mp hp with hpa | ⟨q, hq, rfl⟩
    · exact h.opened p (List.prefix_append_of_prefix (List.prefix_append_of_prefix hpa))
    · have := h.opened (a ++ v ++ q) ((List.prefix_append_right_inj (a ++ v)).mpr hq)
      simp only [List.count_append] at this ⊢
      omega

/-- Texts with the same brackets in the same order are nested alike. -/
theorem nested_congr (hSame : t.filter (fun x => x == o || x == c) =
    v.filter fun x => x == o || x == c) (h : Nested o c t) : Nested o c v := by
  have hOpen (p : Text) : (p.filter fun x => x == o || x == c).count o = p.count o :=
    List.count_filter (by simp)
  have hClose (p : Text) : (p.filter fun x => x == o || x == c).count c = p.count c :=
    List.count_filter (by simp)
  constructor
  · rw [← hOpen v, ← hClose v, ← hSame, hOpen, hClose]
    exact h.closed
  · intro p hp
    have hFiltered := hp.filter fun x => x == o || x == c
    rw [← hSame] at hFiltered
    obtain ⟨q, hq, hpq⟩ := List.prefix_filter_iff.mp hFiltered
    rw [← hOpen p, ← hClose p, hpq, hOpen, hClose]
    exact h.opened q hq

/-- Line feeds do not matter to nesting. -/
theorem nested_unlines_iff (ho : o ≠ '\n') (hc : c ≠ '\n') (ls : List Text) :
    Nested o c (Text.unlines ls) ↔ Nested o c ls.flatten := by
  have hSame := Text.filter_unlines (p := fun x => x == o || x == c)
    (by simp [ho.symm, hc.symm]) ls
  exact ⟨nested_congr hSame, nested_congr hSame.symm⟩

end Script

end SketchRepair
