import Mathlib.Data.List.Nodup

/-!
# SketchRepair — from the last to the first

Repairs that carry offsets or line numbers into the text they change are made from
the last to the first, so that no number still to come is touched. Sorting brings
them into that order; for repairs that were found from the first to the last it just
turns the list round.

* `mergeSort_pairwise_desc` — what the sort gives is in descending order;
* `mergeSort_eq_reverse` — what was in strictly ascending order is turned round,
  however it was shuffled before.
-/

namespace SketchRepair

variable {α : Type} {le : α → α → Bool} (key : α → Int)

theorem mergeSort_pairwise_desc (hle : ∀ a b, le a b = true ↔ key b ≤ key a) (l : List α) :
    (l.mergeSort le).Pairwise fun a b => key b ≤ key a := by
  have hSorted : (l.mergeSort le).Pairwise fun a b => le a b = true := by
    refine List.pairwise_mergeSort ?_ ?_ l
    · intro a b c hab hbc
      rw [hle] at hab hbc ⊢
      omega
    · intro a b
      rw [Bool.or_eq_true, hle, hle]
      omega
  exact hSorted.imp fun h => (hle _ _).mp h

theorem mergeSort_eq_reverse (hle : ∀ a b, le a b = true ↔ key b ≤ key a) {us l : List α}
    (hPerm : us.Perm l) (hAscending : l.Pairwise fun a b => key a < key b) :
    us.mergeSort le = l.reverse := by
  have hPermSorted : (us.mergeSort le).Perm l := (List.mergeSort_perm us le).trans hPerm
  have hKeys : (l.map key).Nodup :=
    List.pairwise_map.mpr (hAscending.imp fun h => Int.ne_of_lt h)
  have hReverse : l.reverse.Pairwise fun a b => key b ≤ key a := by
    rw [List.pairwise_reverse]
    exact hAscending.imp fun h => Int.le_of_lt h
  -- two repairs of one key are the same, because no key comes twice
  have hAnti : ∀ a b, a ∈ us.mergeSort le → b ∈ l.reverse → key b ≤ key a → key a ≤ key b →
      a = b := by
    intro a b ha hb hab hba
    exact List.inj_on_of_nodup_map hKeys (hPermSorted.mem_iff.mp ha) (List.mem_reverse.mp hb)
      (by omega)
  exact List.Perm.eq_of_pairwise hAnti (mergeSort_pairwise_desc key hle us) hReverse
    (hPermSorted.trans (List.reverse_perm l).symm)

end SketchRepair
