import SketchRepair.Patch.Line
import SketchRepair.Proofs.Script.Detection
import SketchRepair.Proofs.Text.Position

/-!
# SketchRepair — the lines on which patches look for faults

A fault is found by its offset in the script, and a patch names a line. So the offset is
turned into a line and a column, and the line number is taken into the lines of the script. If
the two ways of counting were apart at some offset, a patch would be held against the wrong
line, or none; they never are.

* `exists_faultOn` — the line of an issue is known to have a fault;
* `getElem?_of_mem_parenIssues` — and the parenthesis is on it, in the column named;
* `position_names_line` — **offsets and positions are one and the same**, for every text.
-/

namespace SketchRepair

namespace Patch

open Script (ParenFault ParenIssue isShader parenIssues)
open Text (IsPosition offsetOf position)

variable {source : Text} {issue : ParenIssue}

theorem isShader_eq_false_of_mem (h : issue ∈ parenIssues source) : isShader source = false := by
  by_contra hNot
  rw [Bool.not_eq_false] at hNot
  rw [parenIssues, hNot, if_pos rfl] at h
  exact List.not_mem_nil h

/-- The parenthesis of an issue is on the line and in the column of its offset. -/
theorem getElem?_of_mem_parenIssues (h : issue ∈ parenIssues source) : ∃ row,
    (Text.lines source)[(position source issue.index).1 - 1]? = some row ∧
      row[(position source issue.index).2 - 1]? = some issue.fault.char := by
  have hShader := isShader_eq_false_of_mem h
  obtain ⟨k, hIndex, hLone⟩ := (Script.mem_parenIssues_iff (f := issue.fault) hShader).mp h
  have hBreak : issue.fault.char ≠ '\n' := by cases issue.fault <;> decide
  rw [hIndex]
  exact Text.getElem?_at_position hLone.1 hBreak

/-- The line of an issue is known to have the fault of the first issue on it. -/
theorem exists_faultOn (h : issue ∈ parenIssues source) : ∃ first ∈ parenIssues source,
    (position source first.index).1 = (position source issue.index).1 ∧
      (∀ other ∈ parenIssues source,
        (position source other.index).1 = (position source issue.index).1 →
          first.index ≤ other.index) ∧
      faultOn source (parenIssues source) (position source issue.index).1 = some first.fault := by
  have hSome : ((parenIssues source).find? fun i =>
      ((position source i.index).1 : Int) = (position source issue.index).1).isSome = true :=
    List.find?_isSome.mpr ⟨issue, h, decide_eq_true rfl⟩
  obtain ⟨first, hFirst⟩ := Option.isSome_iff_exists.mp hSome
  obtain ⟨hLine, before, behind, hIssues, hBefore⟩ := List.find?_eq_some_iff_append.mp hFirst
  rw [decide_eq_true_eq, Int.natCast_inj] at hLine
  refine ⟨first, List.mem_of_find?_eq_some hFirst, hLine, fun other hOther hSame => ?_, ?_⟩
  · have hAscending := (Script.parenIssues_unmatched (isShader_eq_false_of_mem h)).ascending.2
    rw [hIssues, List.pairwise_append] at hAscending
    rw [hIssues, List.mem_append, List.mem_cons] at hOther
    rcases hOther with hFront | rfl | hBehind
    · -- those before the first are on other lines
      have hOff := hBefore other hFront
      rw [hSame] at hOff
      simp at hOff
    · exact le_rfl
    · exact ((List.pairwise_cons.mp hAscending.2.1).1 other hBehind).le
  · rw [faultOn, hFirst, Option.map_some]

/-- **Lines and columns.** At every offset of a text, its end included, the line is one of the
text, the column is one of that line or the one behind it, and the lines above with their ends
and the columns before lead back to the offset; there are no other lines and columns than
these. So no two offsets are in one place, and later offsets are in later places, by line and
then by column. The line of an unmatched parenthesis of a script is among its lines the one
that has the parenthesis in the column named. It is known to have a fault: that of the first
one on it. -/
theorem position_names_line (source : Text) :
    (∀ i ≤ source.length, IsPosition source (position source i) ∧
        offsetOf source (position source i) = i) ∧
      (∀ p, IsPosition source p →
        offsetOf source p ≤ source.length ∧ position source (offsetOf source p) = p) ∧
      Set.InjOn (fun i : Nat => position source i) (Set.Iic source.length) ∧
      StrictMonoOn (fun i : Nat => toLex (position source i)) (Set.Iic source.length) ∧
      ∀ issue ∈ parenIssues source,
        (∃ row, (Text.lines source)[(position source issue.index).1 - 1]? = some row ∧
          row[(position source issue.index).2 - 1]? = some issue.fault.char) ∧
        ∃ first ∈ parenIssues source,
          (position source first.index).1 = (position source issue.index).1 ∧
            (∀ other ∈ parenIssues source,
              (position source other.index).1 = (position source issue.index).1 →
                first.index ≤ other.index) ∧
            faultOn source (parenIssues source) (position source issue.index).1 =
              some first.fault := by
  refine ⟨fun i hi => Text.position_of_le hi, fun p hp => Text.position_offsetOf hp,
    Text.injOn_position source, Text.strictMonoOn_position source, fun issue hIssue => ?_⟩
  exact ⟨getElem?_of_mem_parenIssues hIssue, exists_faultOn hIssue⟩

/-- A script with an empty line, and a call that is left open at its end. -/
def openAtEnd : Text := "a;\n\n)f(".toList

/-- A line feed is behind its line, an empty line has one column, and so has the end of the
script. The stray parenthesis is the first on its line. -/
theorem position_names_line_openAtEnd :
    position openAtEnd 2 = (1, 3) ∧ offsetOf openAtEnd (1, 3) = 2 ∧
      position openAtEnd 3 = (2, 1) ∧ offsetOf openAtEnd (2, 1) = 3 ∧
      position openAtEnd 7 = (3, 4) ∧ offsetOf openAtEnd (3, 4) = 7 ∧
      toLex (position openAtEnd 3) < toLex (position openAtEnd 4) ∧
      (∃ row, (Text.lines openAtEnd)[2]? = some row ∧ row[2]? = some '(') := by
  obtain ⟨hRebuilt, hReached, -, hOrder, hFaults⟩ := position_names_line openAtEnd
  obtain ⟨hOpen, -⟩ := hFaults ⟨.missingClose, 6⟩ (by decide)
  have hBreak := (hRebuilt 2 (by decide)).2
  have hEmpty := (hRebuilt 3 (by decide)).2
  have hEnd := (hRebuilt 7 (by decide)).2
  have hAfter := hOrder (Set.mem_Iic.mpr (show 3 ≤ openAtEnd.length by decide))
    (Set.mem_Iic.mpr (show 4 ≤ openAtEnd.length by decide)) (by decide)
  exact ⟨by decide, hBreak, by decide, hEmpty, by decide, hEnd, hAfter, hOpen⟩

end Patch

end SketchRepair
