import Mathlib.Data.List.TakeWhile
import Mathlib.Data.Prod.Lex
import Mathlib.Order.Interval.Set.Defs
import SketchRepair.Proofs.Text.Lines
import SketchRepair.Proofs.Text.Occurrence
import SketchRepair.Text.Position

/-!
# SketchRepair — offsets as lines and columns

The position of an offset is found by looking back from it: how many line feeds stand before
it, and how far back the last of them is. Whoever is given the position takes the lines of the
text and counts through them instead. The two views agree at every offset, on a line feed, on
an empty line and at the end of the text too: there is a line around every offset, and what
stands before the offset is the lines above, each with its end, and the beginning of that line.

* `IsLine.position` — where an offset is that lies on a line;
* `position_of_le` — it is a position of the text, and leads back;
* `position_offsetOf` — every position of the text is that of an offset;
* `strictMonoOn_position`, `injOn_position` — positions are in the order of the offsets;
* `getElem?_at_position` — the line of an offset holds its character in its column.
-/

namespace SketchRepair

namespace Text

/-- A line of a text, and a column of that line or the one right behind it. -/
structure IsPosition (t : Text) (p : Nat × Nat) : Prop where
  line_pos : 1 ≤ p.1
  line_le : p.1 ≤ (lines t).length
  column_pos : 1 ≤ p.2
  column_le : p.2 ≤ ((lines t).getD (p.1 - 1) []).length + 1

/-- The offset to which a line and a column lead: behind the lines above, each with its end,
and behind the columns before. -/
def offsetOf (t : Text) (p : Nat × Nat) : Nat := extent ((lines t).take (p.1 - 1)) + (p.2 - 1)

variable {t front line rest x y : Text} {above below : List Text} {p : Nat × Nat} {i j : Nat}

-- ---------------------------------------------------------------------------
-- On a line
-- ---------------------------------------------------------------------------

/-- Behind a text, the line is the one on which the text ends. -/
theorem lineAt_length (before behind : Text) :
    lineAt (before ++ behind) before.length = before.count '\n' + 1 := by
  rw [lineAt, List.take_left]

/-- What stands before a line is the lines above it, each with its end. -/
theorem IsLine.extent_above (h : IsLine front line rest)
    (hLines : lines (front ++ (line ++ rest)) = above ++ line :: below)
    (hNumber : above.length = front.count '\n') : extent above = front.length := by
  rcases h.begins with rfl | ⟨f, rfl⟩
  · obtain rfl := List.eq_nil_of_length_eq_zero hNumber
    rfl
  · rw [List.append_assoc, List.singleton_append, lines_append_cons] at hLines
    have hSame : (lines f).length = above.length := by
      rw [length_lines, hNumber, List.count_append]
      rfl
    obtain ⟨rfl, -⟩ := List.append_inj hLines hSame
    rw [extent_lines, List.length_append]
    rfl

theorem IsLine.columnAt (h : IsLine front (x ++ y) rest) :
    Text.columnAt (front ++ x ++ (y ++ rest)) (front ++ x).length = x.length + 1 := by
  have hUnbroken : ∀ c ∈ x.reverse, decide (c ≠ '\n') = true := by
    intro c hc
    rw [decide_eq_true_eq]
    rintro rfl
    exact h.unbroken (List.mem_append_left y (List.mem_reverse.mp hc))
  have hLast : (x.reverse ++ front.reverse).takeWhile (fun c => decide (c ≠ '\n')) = x.reverse := by
    rcases h.begins with rfl | ⟨f, rfl⟩
    · rw [List.reverse_nil, List.append_nil, List.takeWhile_eq_self_iff]
      exact hUnbroken
    · rw [List.reverse_concat, takeWhile_stop (by decide), List.takeWhile_eq_self_iff]
      exact hUnbroken
  rw [Text.columnAt, List.take_left, List.reverse_append, hLast, List.length_reverse]

theorem IsLine.lineAt (h : IsLine front (x ++ y) rest) :
    Text.lineAt (front ++ x ++ (y ++ rest)) (front ++ x).length = front.count '\n' + 1 := by
  have hx : x.count '\n' = 0 :=
    List.count_eq_zero_of_not_mem fun hMem => h.unbroken (List.mem_append_left y hMem)
  rw [lineAt_length, List.count_append, hx, Nat.add_zero]

/-- An offset on a line is at the number of the line, and behind what stands before it there. -/
theorem IsLine.position (h : IsLine front (x ++ y) rest) :
    Text.position (front ++ (x ++ y ++ rest)) ((front ++ x).length : Nat) =
      (front.count '\n' + 1, x.length + 1) := by
  have hText : front ++ (x ++ y ++ rest) = front ++ x ++ (y ++ rest) := by simp
  rw [Text.position, Int.toNat_natCast, hText, h.lineAt, h.columnAt]

/-- Around every offset of a text there is a line. -/
theorem exists_line_around (h : i ≤ t.length) : ∃ front x y rest,
    t = front ++ (x ++ y ++ rest) ∧ IsLine front (x ++ y) rest ∧ (front ++ x).length = i := by
  obtain ⟨front, x, y, rest, hBefore, hBehind, hAround⟩ := exists_isLine (t.take i) (t.drop i)
  have hLine : IsLine front (x ++ y) rest := by simpa using hAround [] List.not_mem_nil
  refine ⟨front, x, y, rest, ?_, hLine, ?_⟩
  · rw [← List.take_append_drop i t, hBefore, hBehind]
    simp
  · rw [← hBefore, List.length_take_of_le h]

-- ---------------------------------------------------------------------------
-- There and back
-- ---------------------------------------------------------------------------

theorem IsLine.offsetOf (h : IsLine front line rest) (k : Nat) :
    Text.offsetOf (front ++ (line ++ rest)) (front.count '\n' + 1, k + 1) = front.length + k := by
  obtain ⟨above, below, hNumber, hLines, -⟩ := h.exists_lines
  rw [Text.offsetOf, hLines, Nat.add_sub_cancel, ← hNumber, List.take_left,
    h.extent_above hLines hNumber, Nat.add_sub_cancel]

/-- The position of an offset is one of the text, and leads back to the offset. -/
theorem position_of_le (h : i ≤ t.length) :
    IsPosition t (position t i) ∧ offsetOf t (position t i) = i := by
  obtain ⟨front, x, y, rest, rfl, hLine, rfl⟩ := exists_line_around h
  obtain ⟨hNumber, -⟩ := List.getElem?_eq_some_iff.mp hLine.getElem?_lines
  rw [hLine.position]
  refine ⟨⟨?_, ?_, ?_, ?_⟩, ?_⟩
  · exact Nat.le_add_left 1 _
  · exact hNumber
  · exact Nat.le_add_left 1 _
  · rw [Nat.add_sub_cancel, List.getD_eq_getElem?_getD, hLine.getElem?_lines, Option.getD_some,
      List.length_append]
    omega
  · rw [hLine.offsetOf, List.length_append]

/-- Every position of the text is that of an offset. -/
theorem position_offsetOf (h : IsPosition t p) :
    offsetOf t p ≤ t.length ∧ position t (offsetOf t p : Nat) = p := by
  obtain ⟨n, k⟩ := p
  obtain ⟨n, rfl⟩ := Nat.exists_eq_add_of_le' h.line_pos
  obtain ⟨k, rfl⟩ := Nat.exists_eq_add_of_le' h.column_pos
  have hInside : n < (lines t).length := h.line_le
  obtain ⟨line, hAt⟩ : ∃ line, (lines t)[n]? = some line := ⟨_, List.getElem?_eq_getElem hInside⟩
  have hColumn : k ≤ line.length := by
    have hLe := h.column_le
    rw [List.getD_eq_getElem?_getD] at hLe
    simp only [Nat.add_sub_cancel, hAt, Option.getD_some] at hLe
    omega
  obtain ⟨front, rest, rfl, hLine, rfl⟩ := exists_isLine_of_getElem? hAt
  obtain ⟨x, y, rfl, rfl⟩ : ∃ x y, line = x ++ y ∧ x.length = k :=
    ⟨line.take k, line.drop k, (List.take_append_drop k line).symm, List.length_take_of_le hColumn⟩
  rw [hLine.offsetOf, ← List.length_append, hLine.position]
  refine ⟨?_, rfl⟩
  rw [List.length_append, List.length_append, List.length_append, List.length_append]
  omega

/-- Every offset is on a line of the text, one behind the text too. -/
theorem lineAt_le (t : Text) (i : Nat) : lineAt t i ≤ (lines t).length := by
  rw [length_lines]
  exact Nat.succ_le_succ (List.Sublist.count_le '\n' (List.take_sublist i t))

theorem lineAt_mono (t : Text) (h : i ≤ j) : lineAt t i ≤ lineAt t j :=
  Nat.succ_le_succ (List.Sublist.count_le '\n' (List.take_prefix_take_left h).sublist)

/-- Positions are in the order of the offsets, by line and then by column. -/
theorem strictMonoOn_position (t : Text) :
    StrictMonoOn (fun i : Nat => toLex (position t i)) (Set.Iic t.length) := by
  intro i hi j hj hij
  rw [Prod.Lex.toLex_lt_toLex]
  rcases Nat.lt_or_eq_of_le (lineAt_mono t hij.le) with hLine | hLine
  · exact .inl hLine
  · -- on one line the columns are as far apart as the offsets
    refine .inr ⟨hLine, ?_⟩
    obtain ⟨hPosition, hFrom⟩ := position_of_le hi
    have hTo := (position_of_le hj).2
    have hColumn := hPosition.column_pos
    have hSame : (position t i).1 = (position t j).1 := hLine
    rw [offsetOf] at hFrom hTo
    rw [hSame] at hFrom
    omega

/-- No two offsets have one position. -/
theorem injOn_position (t : Text) : Set.InjOn (fun i : Nat => position t i) (Set.Iic t.length) :=
  fun _ hi _ hj h => (strictMonoOn_position t).injOn hi hj (congrArg toLex h)

-- ---------------------------------------------------------------------------
-- Characters
-- ---------------------------------------------------------------------------

/-- The character at an offset is the one at its position, if it is no line feed. -/
theorem getElem?_at_position {c : Char} (h : t[i]? = some c) (hc : c ≠ '\n') : ∃ row,
    (lines t)[(position t i).1 - 1]? = some row ∧ row[(position t i).2 - 1]? = some c := by
  obtain ⟨hInside, -⟩ := List.getElem?_eq_some_iff.mp h
  obtain ⟨front, x, y, rest, rfl, hLine, rfl⟩ := exists_line_around hInside.le
  have hHere : (y ++ rest)[0]? = some c := by
    rw [← h, List.append_assoc x, ← List.append_assoc front, List.getElem?_append_right le_rfl,
      Nat.sub_self]
  have hOnLine : y[0]? = some c := by
    cases y with
    | nil =>
      -- behind the line there is a line feed, or nothing
      rcases hLine.ends with rfl | ⟨r, rfl⟩
      · simp at hHere
      · exact absurd (Option.some.inj hHere).symm hc
    | cons d y => exact hHere
  refine ⟨x ++ y, ?_, ?_⟩
  · rw [hLine.position, Nat.add_sub_cancel, hLine.getElem?_lines]
  · rw [hLine.position, Nat.add_sub_cancel, List.getElem?_append_right le_rfl, Nat.sub_self,
      hOnLine]

end Text

end SketchRepair
