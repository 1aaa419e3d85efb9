import SketchRepair.Proofs.Patch.Block

/-!
# SketchRepair — block patches, all at once

Block patches are spliced one after the other into lines that change under them. The
outcome is the same as if the ranges of the patches that are applied were all replaced
at once: every line of the script as it was is looked at on its own, by its number
there. A line that no range holds is kept; the first line of a range gives way to the
lines of the patch, indented as it was itself; the other lines of a range go.

* `replacementAt_of_outside`, `replacementAt_of_inside` — one line;
* `Placed.flatMap_replacementAt` — a script in stretches, replaced line by line;
* `picked_sublist` — a patch of the list is applied or dropped;
* `exists_held_first` — one that fits holds the first line of one that is applied;
* `applyBlockPatches_simultaneous` — **which patches are applied, and what the script
  is then**.
-/

namespace SketchRepair

namespace Patch

/-- The lines that stand in the place of a line with number `n`, counted from one, when
the ranges of all patches are replaced at once. -/
def replacementAt (ps : List BlockPatch) (line : Text) (n : Nat) : List Text :=
  match ps.find? fun p => decide (p.Holds n) with
  | none => [line]
  | some p => if p.first = n then p.newLines [line] else []

variable {ps : List BlockPatch} {p : BlockPatch} {parts : List Stretch} {line : Text} {n : Nat}

-- ---------------------------------------------------------------------------
-- One line
-- ---------------------------------------------------------------------------

theorem replacementAt_of_outside (h : ∀ q ∈ ps, ¬ q.Holds n) :
    replacementAt ps line n = [line] := by
  have hNone : (ps.find? fun q => decide (q.Holds n)) = none := by
    rw [List.find?_eq_none]
    intro q hq
    rw [decide_eq_true_eq]
    exact h q hq
  rw [replacementAt, hNone]

/-- Only one patch holds the line, so it does not matter which is looked at first. -/
theorem replacementAt_of_inside (hMem : p ∈ ps) (hHolds : p.Holds n)
    (hOnly : ∀ q ∈ ps, q.Holds n → q = p) :
    replacementAt ps line n = if p.first = n then p.newLines [line] else [] := by
  cases hFound : ps.find? fun q => decide (q.Holds n) with
  | none =>
    rw [List.find?_eq_none] at hFound
    exact absurd (decide_eq_true hHolds) (hFound p hMem)
  | some q =>
    have hThere : q.Holds n := by simpa using List.find?_some hFound
    have hq : q = p := hOnly q (List.mem_of_find?_eq_some hFound) hThere
    rw [replacementAt, hFound, hq]

/-- The lines of a range behind its first one go. -/
theorem flatMap_replacementAt_inside (hMem : p ∈ ps) (lines : List Text) (hFirst : p.first < n)
    (hLast : n + lines.length ≤ p.last + 1)
    (hOnly : ∀ k, p.Holds k → ∀ q ∈ ps, q.Holds k → q = p) :
    (lines.zipIdx n).flatMap (fun x => replacementAt ps x.1 x.2) = [] := by
  induction lines generalizing n with
  | nil => rfl
  | cons l ls ih =>
    rw [List.length_cons] at hLast
    have hHolds : p.Holds n := ⟨by omega, by omega⟩
    rw [List.zipIdx_cons, List.flatMap_cons, ih (by omega) (by omega), List.append_nil,
      replacementAt_of_inside hMem hHolds (hOnly n hHolds), if_neg (by omega)]

-- ---------------------------------------------------------------------------
-- All lines
-- ---------------------------------------------------------------------------

/-- Stretches from line `n` on, replaced line by line, where all other patches end
above that line. -/
theorem Placed.flatMap_replacementAt {m : Int} (h : Placed m parts) :
    ∀ {n : Nat}, m = n → (∀ q ∈ parts.filterMap Stretch.patch?, q ∈ ps) →
      (∀ q ∈ ps, q ∈ parts.filterMap Stretch.patch? ∨ q.last < m) →
      ((parts.flatMap Stretch.old).zipIdx n).flatMap (fun x => replacementAt ps x.1 x.2) =
        parts.flatMap Stretch.new := by
  induction h with
  | nil =>
    intro n _ _ _
    rfl
  | @kept m line rest hRest ih =>
    intro n hn hIn hOut
    rw [List.filterMap_cons, Stretch.patch?] at hIn hOut
    have hBelow := hRest.disjoint.1
    have hOutside : ∀ q ∈ ps, ¬ q.Holds n := by
      intro q hq hHolds
      have hHere : q.first ≤ n ∧ n ≤ q.last := hHolds
      rcases hOut q hq with hLater | hAbove
      · have := hBelow q hLater
        omega
      · omega
    have hTail := ih (n := n + 1) (by omega) hIn
      (fun q hq => (hOut q hq).imp_right fun hAbove => by omega)
    rw [List.flatMap_cons, List.flatMap_cons, Stretch.old, Stretch.new, List.singleton_append,
      List.zipIdx_cons, List.flatMap_cons, replacementAt_of_outside hOutside, hTail]
  | @replaced m p old rest hFirst hLast hOld hRest ih =>
    intro n hn hIn hOut
    rw [List.filterMap_cons, Stretch.patch?] at hIn hOut
    have hBelow := hRest.disjoint.1
    have hMem : p ∈ ps := hIn p (List.mem_cons_self ..)
    have hOnly : ∀ k, p.Holds k → ∀ q ∈ ps, q.Holds k → q = p := by
      intro k hk q hq hHolds
      have hHere : p.first ≤ k ∧ k ≤ p.last := hk
      have hThere : q.first ≤ k ∧ k ≤ q.last := hHolds
      rcases hOut q hq with hHead | hAbove
      · rcases List.mem_cons.mp hHead with hSame | hLater
        · exact hSame
        · have := hBelow q hLater
          omega
      · omega
    have hTail := ih (n := n + old.length) (by omega)
      (fun q hq => hIn q (List.mem_cons_of_mem _ hq)) (by
        intro q hq
        rcases hOut q hq with hHead | hAbove
        · rcases List.mem_cons.mp hHead with rfl | hLater
          · exact .inr (by omega)
          · exact .inl hLater
        · exact .inr (by omega))
    rw [List.flatMap_cons, List.flatMap_cons, Stretch.old, Stretch.new, List.zipIdx_append,
      List.flatMap_append, hTail]
    congr 1
    -- the first line of the range stands for all of them
    cases old with
    | nil => exact absurd rfl hOld
    | cons l ls =>
      rw [List.length_cons] at hLast
      have hHolds : p.Holds n := ⟨by omega, by omega⟩
      rw [List.zipIdx_cons, List.flatMap_cons,
        flatMap_replacementAt_inside hMem ls (by omega) (by omega) hOnly, List.append_nil,
        replacementAt_of_inside hMem hHolds (hOnly n hHolds), if_pos (by omega)]
      rfl

-- ---------------------------------------------------------------------------
-- Which patches
-- ---------------------------------------------------------------------------

theorem picked_sublist (ps : List BlockPatch) : ∀ n : Int, (picked n ps).Sublist ps := by
  induction ps with
  | nil =>
    intro n
    exact List.Sublist.refl _
  | cons p ps ih =>
    intro n
    rw [picked]
    split
    · exact (ih _).cons_cons p
    · exact (ih _).cons p

theorem overlaps_span_iff {q : BlockPatch} :
    p.span.overlaps q.span = true ↔ p.first ≤ q.last ∧ q.first ≤ p.last := by
  rw [overlaps_iff]
  show p.first - 1 ≤ q.last - 1 ∧ q.first - 1 ≤ p.last - 1 ↔ _
  omega

theorem holds_first {m : Int} (hFits : p.fits m = true) : p.Holds p.first.toNat := by
  have hRange := fits_iff.mp hFits
  exact ⟨by omega, by omega⟩

/-- A patch that fits holds the first line of one that is picked. -/
theorem exists_held_first (hMem : p ∈ ps) (hFits : p.fits n = true) :
    ∃ q ∈ picked n (bottomUp ps), p.Holds q.first.toNat := by
  rcases picked_or_overlapped (bottomUp_sorted ps) (mem_bottomUp.mpr hMem) hFits with
    hPicked | ⟨q, hq, hBegins⟩
  · exact ⟨p, hPicked, holds_first hFits⟩
  · have hRange := fits_iff.mp (fits_of_mem_picked hq).2
    exact ⟨q, hq, by omega, by omega⟩

/-- A patch that fits overlaps one that is picked, be it itself. -/
theorem exists_overlapped (hMem : p ∈ ps) (hFits : p.fits n = true) :
    ∃ q ∈ picked n (bottomUp ps), p.span.overlaps q.span = true := by
  obtain ⟨q, hq, hHolds⟩ := exists_held_first hMem hFits
  have hRange := fits_iff.mp (fits_of_mem_picked hq).2
  have hHere : p.first ≤ q.first.toNat ∧ q.first.toNat ≤ p.last := hHolds
  exact ⟨q, hq, overlaps_span_iff.mpr ⟨by omega, by omega⟩⟩

/-- **Block patches at once.** Every patch of the list is applied or dropped. Those
applied lie within the script, each of them above the one applied before it; one that
is dropped lies outside of the script or overlaps one that is applied. The script is
then as if all ranges had been replaced at once, by the numbers of its lines as it was. -/
theorem applyBlockPatches_simultaneous (script : Text) (ps : List BlockPatch) :
    ∃ applied dropped, ps.Perm (applied ++ dropped) ∧
      (∀ p ∈ applied, p.fits (Text.lines script).length = true) ∧
      (applied.Pairwise fun p q => q.last < p.first) ∧
      (∀ p ∈ dropped, p.fits (Text.lines script).length = true →
        ∃ q ∈ applied, p.span.overlaps q.span = true) ∧
      applyBlockPatches script ps =
        (Text.unlines (((Text.lines script).zipIdx 1).flatMap fun x =>
          replacementAt applied x.1 x.2), applied) := by
  obtain ⟨parts, hOld, hPlaced, hPatches, hDone⟩ := applyBlockPatches_spec script ps
  have hOrder := hPlaced.disjoint.2
  rw [hPatches, List.pairwise_reverse] at hOrder
  obtain ⟨dropped, hPerm⟩ :=
    (picked_sublist (bottomUp ps) (Text.lines script).length).exists_perm_append
  have hAll : ps.Perm (picked (Text.lines script).length (bottomUp ps) ++ dropped) :=
    (List.mergeSort_perm ps _).symm.trans hPerm
  refine ⟨picked (Text.lines script).length (bottomUp ps), dropped, hAll, ?_, hOrder, ?_, ?_⟩
  · intro p hp
    exact (fits_of_mem_picked hp).2
  · intro p hp hFits
    exact exists_overlapped (hAll.mem_iff.mpr (List.mem_append_right _ hp)) hFits
  · have hSame : ∀ q, q ∈ parts.filterMap Stretch.patch? ↔
        q ∈ picked (Text.lines script).length (bottomUp ps) := by
      intro q
      rw [hPatches, List.mem_reverse]
    have hAtOnce := hPlaced.flatMap_replacementAt (n := 1) rfl (fun q hq => (hSame q).mp hq)
      (fun q hq => .inl ((hSame q).mpr hq))
    rw [hDone, ← hAtOnce, hOld]

/-- Of two ranges that overlap the lower one is applied; one behind the last line is not. -/
example : applyBlockPatches "a();\nb();\n  c();".toList
      [⟨2, 3, "// b\n// c".toList⟩, ⟨3, 3, "// c\n// d".toList⟩, ⟨5, 6, "// x".toList⟩] =
    ("a();\nb();\n  // c\n  // d".toList, [⟨3, 3, "// c\n// d".toList⟩]) := by
  cbv

end Patch

end SketchRepair
