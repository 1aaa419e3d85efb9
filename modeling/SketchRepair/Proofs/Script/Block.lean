import SketchRepair.Script.Block

/-!
# SketchRepair — the block around a line holds the line

Whatever the search for the block around a line comes upon, the block it settles for
begins at or before the line, ends at or behind it, and lies in the script.

* `blockAround_bounds` — the result, assembled from the two ends of either search;
* `isEven_iff` — what it is to close what is opened, by counting.
-/

namespace SketchRepair

namespace Script

variable {lines : List Text} {i : Nat}

theorem isEven_iff {t : Text} :
    isEven t = true ↔ t.count '{' = t.count '}' ∧ t.count '(' = t.count ')' := by
  rw [isEven, Bool.and_eq_true, beq_iff_eq, beq_iff_eq, braceSurplus, parenSurplus]
  omega

theorem linesToBalance_le (ls : List Text) : ∀ (braces parens : Int),
    linesToBalance braces parens ls ≤ ls.length := by
  induction ls with
  | nil =>
    intro braces parens
    exact Nat.le_refl _
  | cons l ls ih =>
    intro braces parens
    rw [linesToBalance, List.length_cons]
    split
    · omega
    · exact Nat.succ_le_succ (ih _ _)

theorem blockStart_le : blockStart lines i ≤ i := Nat.sub_le ..

theorem blockEnd_bounds (hi : i < lines.length) (start : Nat) :
    i ≤ blockEnd lines start i ∧ blockEnd lines start i < lines.length := by
  unfold blockEnd
  dsimp only
  split
  · have hLater := linesToBalance_le (lines.drop (i + 1))
      (braceSurplus (Text.unlines ((lines.take (i + 1)).drop start)))
      (parenSurplus (Text.unlines ((lines.take (i + 1)).drop start)))
    rw [List.length_drop] at hLater
    omega
  · omega

theorem statementStart_le : statementStart lines i ≤ i := by
  unfold statementStart
  split
  · exact Nat.sub_le ..
  · exact Nat.le_refl _

theorem statementEnd_bounds (hi : i < lines.length) :
    i ≤ statementEnd lines i ∧ statementEnd lines i < lines.length := by
  unfold statementEnd
  split
  · next k hk =>
    obtain ⟨hFound, -⟩ := List.findIdx?_eq_some_iff_getElem.mp hk
    rw [List.length_drop] at hFound
    omega
  · omega

/-- The block around a line holds the line, and lies in the script. -/
theorem blockAround_bounds (hi : i < lines.length) :
    ∃ start stop : Nat, blockAround lines i = ⟨start, stop⟩ ∧ start ≤ i ∧ i ≤ stop ∧
      stop < lines.length := by
  have hStart : blockStart lines i ≤ i := blockStart_le
  have hStop := blockEnd_bounds hi (blockStart lines i)
  have hFrom : statementStart lines i ≤ i := statementStart_le
  have hTo := statementEnd_bounds hi
  unfold blockAround
  dsimp only
  split
  · split
    · exact ⟨_, _, rfl, hFrom, hTo.1, hTo.2⟩
    · exact ⟨i, i, rfl, Nat.le_refl _, Nat.le_refl _, hi⟩
  · split
    · exact ⟨_, _, rfl, hStart, hStop.1, hStop.2⟩
    · exact ⟨i, i, rfl, Nat.le_refl _, Nat.le_refl _, hi⟩

end Script

end SketchRepair
