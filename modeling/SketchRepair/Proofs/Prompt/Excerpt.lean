import Mathlib.Data.List.Sort
import SketchRepair.Prompt.Paren
import SketchRepair.Proofs.Text.Position

/-!
# SketchRepair — the lines that a question shows

A question shows an issue among the lines around it, five before and five behind. The window
is cut out of the lines by offsets, which are counted from zero, while the line of the issue is
counted from one, and only the end of the window makes up for it: it begins one line late. So
the line that is five before the issue is left out whenever there is one, and all other lines
are shown as they should be.

* `numbersWithin`, `numbersShown` — the lines that belong into a window, and those in it;
* `numberedContext_eq` — a window is these lines, one by one, in order;
* `numberedContext_eq_within_iff` — and is complete only at the beginning of the lines;
* `lines_numberedContext` — the lines of a window of a script can be read off it;
* `excerpts_begin_late` — **what the question about parentheses shows**.
-/

namespace SketchRepair

namespace Prompt

variable {lines : List Text} {target radius : Int} {marker separator script : Text}
  {count n : Nat}

/-- The numbers of the lines within the radius of the target. -/
def numbersWithin (count : Nat) (target radius : Int) : List Nat :=
  (List.range' 1 count).filter fun n => target - radius ≤ n ∧ n ≤ target + radius

/-- The numbers of the lines that are shown: all within the radius but the one that is the
whole radius before the target. -/
def numbersShown (count : Nat) (target radius : Int) : List Nat :=
  (numbersWithin count target radius).filter fun n => (n : Int) ≠ target - radius

/-- A line as it is shown: the marker or blanks instead, the number, and what the line holds. -/
def numberedLine (lines : List Text) (target : Int) (marker separator : Text) (n : Nat) : Text :=
  (if (n : Int) = target then marker else List.replicate marker.length ' ') ++ separator ++
    Decimal.ofNat n ++ ": ".toList ++ lines.getD (n - 1) []

-- ---------------------------------------------------------------------------
-- The window
-- ---------------------------------------------------------------------------

theorem mem_numbersWithin : n ∈ numbersWithin count target radius ↔
    (1 ≤ n ∧ n ≤ count) ∧ target - radius ≤ n ∧ n ≤ target + radius := by
  rw [numbersWithin, List.mem_filter, List.mem_range'_1, decide_eq_true_eq]
  omega

theorem mem_numbersShown : n ∈ numbersShown count target radius ↔
    (1 ≤ n ∧ n ≤ count) ∧ target - radius < n ∧ n ≤ target + radius := by
  rw [numbersShown, List.mem_filter, mem_numbersWithin, decide_eq_true_eq]
  omega

theorem numbersWithin_ascending : (numbersWithin count target radius).Pairwise (· < ·) :=
  List.Pairwise.filter _ List.pairwise_lt_range'

theorem numbersShown_ascending : (numbersShown count target radius).Pairwise (· < ·) :=
  numbersWithin_ascending.filter _

/-- A window is the lines of its numbers. -/
theorem numberedContext_eq (lines : List Text) (target radius : Int) (marker separator : Text) :
    numberedContext lines target radius marker separator =
      Text.unlines ((numbersShown lines.length target radius).map
        (numberedLine lines target marker separator)) := by
  have hNumbers (first k : Nat) (hFirst : first = (target - radius).toNat)
      (hLength : k = (min (lines.length : Int) (target + radius) - first).toNat) :
      (List.range' first k).map (· + 1) = numbersShown lines.length target radius := by
    refine List.Pairwise.eq_of_mem_iff (r := (· < ·)) ?_ numbersShown_ascending fun n => ?_
    · rw [List.pairwise_map]
      exact List.Pairwise.imp Nat.succ_lt_succ List.pairwise_lt_range'
    · rw [List.mem_map, mem_numbersShown]
      simp only [List.mem_range'_1]
      constructor
      · rintro ⟨i, hi, rfl⟩
        omega
      · intro hn
        exact ⟨n - 1, by omega, by omega⟩
  rw [← hNumbers _ _ rfl rfl, List.map_map]
  rfl

theorem numberedLine_ne_nil : numberedLine lines target marker separator n ≠ [] := by
  simp [numberedLine]

/-- At the beginning of the lines none is left out. -/
theorem numbersShown_eq_within (h : target ≤ radius ∨ radius < 0) :
    numbersShown count target radius = numbersWithin count target radius := by
  refine List.filter_eq_self.mpr fun n hn => ?_
  rw [mem_numbersWithin] at hn
  rw [decide_eq_true_eq]
  omega

/-- Further on the first one is. -/
theorem exists_numbersWithin_eq_cons (hLe : target ≤ count) (h : ¬ (target ≤ radius ∨ radius < 0)) :
    ∃ k, numbersWithin count target radius = k :: numbersShown count target radius := by
  obtain ⟨k, hk⟩ := Int.eq_ofNat_of_zero_le (show 0 ≤ target - radius by omega)
  refine ⟨k, List.Pairwise.eq_of_mem_iff (r := (· < ·)) numbersWithin_ascending ?_ fun n => ?_⟩
  · refine List.pairwise_cons.mpr ⟨fun n hn => ?_, numbersShown_ascending⟩
    rw [mem_numbersShown] at hn
    omega
  · rw [List.mem_cons, mem_numbersShown, mem_numbersWithin]
    omega

/-- A window holds all lines within the radius exactly if there is no line the whole radius
before the target. -/
theorem numberedContext_eq_within_iff (hLe : target ≤ lines.length) :
    numberedContext lines target radius marker separator =
        Text.unlines ((numbersWithin lines.length target radius).map
          (numberedLine lines target marker separator)) ↔ target ≤ radius ∨ radius < 0 := by
  rw [numberedContext_eq]
  by_cases hAll : target ≤ radius ∨ radius < 0
  · rw [numbersShown_eq_within hAll]
    exact iff_of_true rfl hAll
  · refine iff_of_false (fun hSame => ?_) hAll
    obtain ⟨k, hFirst⟩ := exists_numbersWithin_eq_cons hLe hAll
    have hLonger := Text.length_unlines_lt_cons
      (numberedLine_ne_nil : numberedLine lines target marker separator k ≠ [])
      ((numbersShown lines.length target radius).map (numberedLine lines target marker separator))
    rw [hSame, hFirst, List.map_cons] at hLonger
    exact lt_irrefl _ hLonger

-- ---------------------------------------------------------------------------
-- Scripts
-- ---------------------------------------------------------------------------

/-- A line of a script is shown on one line. -/
theorem break_not_mem_numberedLine (hMarker : '\n' ∉ marker) (hSeparator : '\n' ∉ separator) :
    '\n' ∉ numberedLine (Text.lines script) target marker separator n := by
  have hBegin : '\n' ∉ (if (n : Int) = target then marker else
      List.replicate marker.length ' ') := by
    split
    · exact hMarker
    · simp
  have hNumber : '\n' ∉ Decimal.ofNat n := fun hMem =>
    absurd (Nat.isDigit_of_mem_toDigits (by decide) (by decide) hMem) (by decide)
  have hText : '\n' ∉ (Text.lines script)[n - 1]?.getD [] := by
    cases hLine : (Text.lines script)[n - 1]? with
    | none => exact List.not_mem_nil
    | some line => exact Text.not_mem_of_mem_lines line (List.mem_of_getElem? hLine)
  simp [numberedLine, hBegin, hSeparator, hNumber, hText]

/-- The lines of a window of a script can be read off it, if there is any. -/
theorem lines_numberedContext (hPos : 1 ≤ target) (hLe : target ≤ (Text.lines script).length)
    (hRadius : 1 ≤ radius) (hMarker : '\n' ∉ marker) (hSeparator : '\n' ∉ separator) :
    Text.lines (numberedContext (Text.lines script) target radius marker separator) =
      (numbersShown (Text.lines script).length target radius).map
        (numberedLine (Text.lines script) target marker separator) := by
  obtain ⟨k, rfl⟩ := Int.eq_ofNat_of_zero_le (show 0 ≤ target by omega)
  have hTarget : k ∈ numbersShown (Text.lines script).length k radius := by
    rw [mem_numbersShown]
    omega
  rw [numberedContext_eq, Text.lines_unlines]
  · exact List.ne_nil_of_mem (List.mem_map_of_mem hTarget)
  · intro l hl
    obtain ⟨n, -, rfl⟩ := List.mem_map.mp hl
    exact break_not_mem_numberedLine hMarker hSeparator

namespace ParenContext

/-- The marker is on the line of the issue alone. -/
theorem isPrefix_marker_iff : "> ".toList <+: numberedLine lines target "> ".toList [] n ↔
    (n : Int) = target := by
  unfold numberedLine
  split
  · next hHere =>
    exact iff_of_true (by simp) hHere
  · next hOther =>
    refine iff_of_false (fun hPrefix => ?_) hOther
    obtain ⟨rest, hRest⟩ := hPrefix
    have hFirst := congrArg List.head? hRest
    simp at hFirst

/-- The excerpt of an issue shows its line, and can be read line by line. -/
theorem excerpt_spec (script : Text) (issue : Script.ParenIssue) :
    let line := (Text.position script issue.index).1
    let count := (Text.lines script).length
    let row := numberedLine (Text.lines script) line "> ".toList []
    (1 ≤ line ∧ line ≤ count) ∧ line ∈ numbersShown count line 5 ∧
      Text.lines (excerpt script issue) = (numbersShown count line 5).map row ∧
      (Text.lines (excerpt script issue) = (numbersWithin count line 5).map row ↔ line ≤ 5) := by
  intro line count row
  have hPos : 1 ≤ line := Nat.le_add_left 1 _
  have hLe : line ≤ count := Text.lineAt_le script issue.index.toNat
  have hLines : Text.lines (excerpt script issue) = (numbersShown count line 5).map row :=
    lines_numberedContext (Int.ofNat_le.mpr hPos) (Int.ofNat_le.mpr hLe) (by decide) (by decide)
      (by decide)
  refine ⟨⟨hPos, hLe⟩, mem_numbersShown.mpr (by omega), hLines, ?_⟩
  rw [hLines]
  by_cases hAll : line ≤ 5
  · have hNumbers : numbersShown count line 5 = numbersWithin count line 5 :=
      numbersShown_eq_within (.inl (by omega))
    rw [hNumbers]
    exact iff_of_true rfl hAll
  · refine iff_of_false (fun hSame => ?_) hAll
    obtain ⟨k, hFirst⟩ := exists_numbersWithin_eq_cons (Int.ofNat_le.mpr hLe)
      (show ¬ ((line : Int) ≤ 5 ∨ (5 : Int) < 0) by omega)
    have hLength := congrArg List.length hSame
    rw [hFirst, List.length_map, List.length_map, List.length_cons] at hLength
    omega

/-- **What the question about parentheses shows.** For each issue there is a heading and an
excerpt. Every line of it is one line of the script with its number, in order, and marked is
that of the issue alone. It goes from four lines before the issue to five behind, as far as
there are any. So it is complete, with the line five before the issue, exactly if there is no
such line. That is how every window is cut out of lines: the line that is the whole radius
before the target is left out, and nothing else. -/
theorem excerpts_begin_late (c : ParenContext) :
    (∃ before behind, c.question = before ++ stacked (c.issues.map fun issue =>
        "--- Context for ".toList ++ place c.script issue ++ " ---\n".toList ++
          excerpt c.script issue ++ ['\n']) ++ behind) ∧
      (∀ issue ∈ c.issues,
        let line := (Text.position c.script issue.index).1
        let count := (Text.lines c.script).length
        let row := numberedLine (Text.lines c.script) line "> ".toList []
        (1 ≤ line ∧ line ≤ count) ∧ line ∈ numbersShown count line 5 ∧
          Text.lines (excerpt c.script issue) = (numbersShown count line 5).map row ∧
          (Text.lines (excerpt c.script issue) = (numbersWithin count line 5).map row ↔
            line ≤ 5) ∧
          ∀ n : Nat, "> ".toList <+: row n ↔ n = line) ∧
      ∀ (lines : List Text) (target radius : Int) (marker separator : Text),
        1 ≤ target → target ≤ lines.length →
          let row := numberedLine lines target marker separator
          numberedContext lines target radius marker separator =
              Text.unlines ((numbersShown lines.length target radius).map row) ∧
            (numberedContext lines target radius marker separator =
                Text.unlines ((numbersWithin lines.length target radius).map row) ↔
              target ≤ radius ∨ radius < 0) := by
  refine ⟨⟨_, _, rfl⟩, fun issue _ => ?_, fun lines target radius marker separator _ hLe => ?_⟩
  · obtain ⟨hLine, hShown, hLines, hAll⟩ := excerpt_spec c.script issue
    exact ⟨hLine, hShown, hLines, hAll, fun n => isPrefix_marker_iff.trans Int.natCast_inj⟩
  · exact ⟨numberedContext_eq .., numberedContext_eq_within_iff hLe⟩

/-- A script whose sixth line has a call that is left open. -/
def openOnSixth : Text := "a1\na2\na3\na4\na5\nf(1;\na7".toList

/-- The first line is five before the call, and is not shown. -/
theorem excerpts_begin_late_openOnSixth :
    (⟨.missingClose, 16⟩ : Script.ParenIssue) ∈ Script.parenIssues openOnSixth ∧
      numbersWithin 7 6 5 = [1, 2, 3, 4, 5, 6, 7] ∧ numbersShown 7 6 5 = [2, 3, 4, 5, 6, 7] ∧
      Text.lines (excerpt openOnSixth ⟨.missingClose, 16⟩) =
        [2, 3, 4, 5, 6, 7].map (numberedLine (Text.lines openOnSixth) 6 "> ".toList []) ∧
      Text.lines (excerpt openOnSixth ⟨.missingClose, 16⟩) ≠
        [1, 2, 3, 4, 5, 6, 7].map (numberedLine (Text.lines openOnSixth) 6 "> ".toList []) ∧
      (1 : Int) ≤ 2 ∧ (2 : Int) ≤ ["a".toList, "b".toList, "c".toList].length ∧
      numberedContext ["a".toList, "b".toList, "c".toList] 2 1 ['>'] [' '] =
        Text.unlines ([2, 3].map
          (numberedLine ["a".toList, "b".toList, "c".toList] 2 ['>'] [' '])) := by
  have hIssue : (⟨.missingClose, 16⟩ : Script.ParenIssue) ∈ Script.parenIssues openOnSixth := by
    decide
  obtain ⟨-, hExcerpts, hWindows⟩ :=
    excerpts_begin_late ⟨openOnSixth, Script.parenIssues openOnSixth⟩
  obtain ⟨-, -, hLines, hAll, -⟩ := hExcerpts _ hIssue
  obtain ⟨hWindow, -⟩ := hWindows ["a".toList, "b".toList, "c".toList] 2 1 ['>'] [' '] (by decide)
    (by decide)
  have hLate : ¬ (Text.position openOnSixth 16).1 ≤ 5 := by decide
  exact ⟨hIssue, by decide, by decide, hLines, fun hSame => hLate (hAll.mp hSame), by decide,
    by decide, hWindow⟩

end ParenContext

end Prompt

end SketchRepair
