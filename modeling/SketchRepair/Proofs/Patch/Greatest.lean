import Mathlib.Combinatorics.Enumerative.DoubleCounting
import Mathlib.Order.Bounds.Basic
import SketchRepair.Proofs.Patch.Simultaneous

/-!
# SketchRepair — no choice of block patches is larger

Block patches that overlap cannot all be applied, so there is a choice to make. It is
made greedily, and never costs a patch: whichever patches could stand side by side, at
least as many are applied.

Every patch that fits is charged to one that is applied: its range holds the first line
of an applied patch. Ranges without a common line are charged to different patches, so
there are no more of them than patches applied. Nothing has to be exchanged step by
step, and it does not matter which of several patches with the same first line wins.

* `SideBySide.eq_of_holds` — only one of patches side by side holds a line;
* `length_le_picked` — so no two of them are charged to the same patch;
* `applyBlockPatches_greatest` — **as many patches as possible are applied**.
-/

namespace SketchRepair

namespace Patch

/-- Patches of a script of `n` lines that do not get in each other's way: their ranges lie
within the script, and no line is in two of them. -/
structure SideBySide (n : Nat) (ps : List BlockPatch) : Prop where
  fits : ∀ p ∈ ps, p.fits n = true
  disjoint : ps.Pairwise fun p q => ∀ k, p.Holds k → ¬ q.Holds k

variable {n : Nat} {ps chosen : List BlockPatch} {p q : BlockPatch}

-- ---------------------------------------------------------------------------
-- Side by side
-- ---------------------------------------------------------------------------

/-- Only one of patches side by side holds a line. -/
theorem SideBySide.eq_of_holds (h : SideBySide n chosen) (hp : p ∈ chosen) (hq : q ∈ chosen)
    {k : Nat} (hpk : p.Holds k) (hqk : q.Holds k) : p = q := by
  by_contra hne
  have : Std.Symm fun p q : BlockPatch => ∀ k, p.Holds k → ¬ q.Holds k :=
    ⟨fun a b hab k hb ha => hab k ha hb⟩
  exact h.disjoint.forall hp hq hne k hpk hqk

/-- No patch stands beside itself. -/
theorem SideBySide.nodup (h : SideBySide n chosen) : chosen.Nodup := by
  refine h.disjoint.imp_of_mem ?_
  rintro p q hp - hApart rfl
  have hHere := holds_first (h.fits p hp)
  exact hApart _ hHere hHere

/-- Ranges one above the other share no line. -/
theorem sideBySide_of_above (hFits : ∀ p ∈ ps, p.fits n = true)
    (hAbove : ps.Pairwise fun p q => q.last < p.first) : SideBySide n ps where
  fits := hFits
  disjoint := by
    refine hAbove.imp fun {p q} hLast k hp hq => ?_
    have hHere : p.first ≤ k ∧ k ≤ p.last := hp
    have hThere : q.first ≤ k ∧ k ≤ q.last := hq
    omega

-- ---------------------------------------------------------------------------
-- Charging
-- ---------------------------------------------------------------------------

/-- There are no more patches side by side than are picked. -/
theorem length_le_picked (hAmong : ∀ p ∈ chosen, p ∈ ps) (h : SideBySide n chosen) :
    chosen.length ≤ (picked n (bottomUp ps)).length := by
  have hCard : chosen.toFinset.card ≤ (picked n (bottomUp ps)).toFinset.card := by
    -- a patch is charged to one whose first line it holds
    refine Finset.card_le_card_of_forall_subsingleton
      (fun p q : BlockPatch => p.Holds q.first.toNat) ?_ ?_
    · intro p hp
      rw [List.mem_toFinset] at hp
      obtain ⟨q, hq, hHolds⟩ := exists_held_first (hAmong p hp) (h.fits p hp)
      exact ⟨q, List.mem_toFinset.mpr hq, hHolds⟩
    · rintro q - p ⟨hp, hpq⟩ p' ⟨hp', hpq'⟩
      rw [List.mem_toFinset] at hp hp'
      exact h.eq_of_holds hp hp' hpq hpq'
  rw [List.toFinset_card_of_nodup h.nodup] at hCard
  exact hCard.trans (List.toFinset_card_le _)

/-- **As many patches as possible.** The patches applied to a script are some of those
given and stand side by side, and no larger number of the given ones does. -/
theorem applyBlockPatches_greatest (script : Text) (ps : List BlockPatch) :
    (applyBlockPatches script ps).2.Subperm ps ∧
      SideBySide (Text.lines script).length (applyBlockPatches script ps).2 ∧
      IsGreatest {k | ∃ chosen : List BlockPatch, chosen.Subperm ps ∧
          SideBySide (Text.lines script).length chosen ∧ chosen.length = k}
        (applyBlockPatches script ps).2.length := by
  obtain ⟨_, -, hPlaced, hPatches, hDone⟩ := applyBlockPatches_spec script ps
  rw [hDone]
  have hAbove := hPlaced.disjoint.2
  rw [hPatches, List.pairwise_reverse] at hAbove
  have hSome : (picked (Text.lines script).length (bottomUp ps)).Subperm ps :=
    (picked_sublist (bottomUp ps) _).subperm.trans (List.mergeSort_perm ps _).subperm
  have hBeside := sideBySide_of_above (fun p hp => (fits_of_mem_picked hp).2) hAbove
  refine ⟨hSome, hBeside, ⟨_, hSome, hBeside, rfl⟩, ?_⟩
  rintro k ⟨chosen, hChosen, hSide, rfl⟩
  exact length_le_picked (fun p hp => hChosen.subset hp) hSide

/-- One long range gives way to the two short ones in it. -/
example : (applyBlockPatches "a();\nb();\nc();".toList
      [⟨1, 3, "// all".toList⟩, ⟨1, 1, "// a".toList⟩, ⟨2, 3, "// b".toList⟩]).2 =
    [⟨2, 3, "// b".toList⟩, ⟨1, 1, "// a".toList⟩] := by
  cbv

end Patch

end SketchRepair
