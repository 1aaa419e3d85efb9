import SketchRepair.Proofs.Document.Layout
import SketchRepair.Proofs.Text.Position

/-!
# SketchRepair — the lines of an element

An element is said to cover lines of its page: the first one is the line on which its
opening tag begins, and there are as many as its content has. The content begins behind the
opening tag, though, and a tag with many attributes may well be spread over lines. So the
lines are those of the content exactly if the opening tag stands on one line; otherwise both
ends come too early, by as many lines as the tag goes over.

* `LaidOut.exists_around` — what stands before an element, with its line;
* `lineRange_position_iff` — the lines of an element, and those of its content.
-/

namespace SketchRepair

namespace Document

variable {tag : Tag} {e : Element} {es : List Element} {page passed : Text}

/-- An element begins where its offset and its line say. -/
theorem LaidOut.exists_around (h : LaidOut tag passed page es) : ∀ e ∈ es, ∃ before behind,
    passed ++ page = before ++ (e.opening ++ (e.content ++ (e.closing ++ behind))) ∧
      e.offset = before.length ∧ e.line = before.count '\n' + 1 := by
  induction h with
  | tail => exact List.forall_mem_nil _
  | @element passed gap rest e es hGap hFormed hOffset hLine hRest ih =>
    refine List.forall_mem_cons.mpr ⟨⟨passed ++ gap, rest, ?_, hOffset, ?_⟩, fun d hd => ?_⟩
    · simp [Element.text]
    · rw [hLine, Nat.add_comm]
    · obtain ⟨before, behind, hText, hPlace⟩ := ih d hd
      exact ⟨before, behind, by simpa using hText, hPlace⟩

/-- **The lines of an element** begin where its opening tag does. The content begins and ends
as many lines further down as there are line feeds in the opening tag. So the lines of the
element are those of its content exactly if there is none. -/
theorem lineRange_position_iff (h : e ∈ elements tag page) :
    e.lineRange.1 = (Text.position page e.offset).1 ∧
      (Text.position page e.contentOffset).1 = e.lineRange.1 + e.opening.count '\n' ∧
      (Text.position page e.contentEnd).1 = e.lineRange.2 + e.opening.count '\n' ∧
      (e.lineRange = ((Text.position page e.contentOffset).1,
        (Text.position page e.contentEnd).1) ↔ '\n' ∉ e.opening) := by
  obtain ⟨before, behind, hPage, hOffset, hLine⟩ :=
    (elements_laidOut tag page).1.exists_around e h
  rw [List.nil_append] at hPage
  have hLast : e.lineRange.2 = e.line + e.content.count '\n' := by
    rw [Element.lineRange, Element.lines, Text.length_lines]
    rfl
  have hBegin : (Text.position page e.offset).1 = e.line := by
    rw [Text.position, Int.toNat_natCast, hPage, hOffset, Text.lineAt_length, hLine]
  have hContent : (Text.position page e.contentOffset).1 = e.line + e.opening.count '\n' := by
    have hPlace : e.contentOffset = (before ++ e.opening).length := by
      rw [Element.contentOffset, hOffset, List.length_append]
    rw [Text.position, Int.toNat_natCast, hPage, hPlace, ← List.append_assoc,
      Text.lineAt_length, List.count_append, hLine]
    omega
  have hEnd : (Text.position page e.contentEnd).1 =
      e.line + e.content.count '\n' + e.opening.count '\n' := by
    have hPlace : e.contentEnd = (before ++ e.opening ++ e.content).length := by
      rw [Element.contentEnd, Element.contentOffset, hOffset, List.length_append,
        List.length_append]
    rw [Text.position, Int.toNat_natCast, hPage, hPlace, ← List.append_assoc, ← List.append_assoc,
      Text.lineAt_length, List.count_append, List.count_append, hLine]
    omega
  refine ⟨hBegin.symm, hContent, hEnd.trans (by rw [hLast]), ?_⟩
  rw [Prod.ext_iff, hContent, hEnd, hLast, ← List.count_eq_zero]
  dsimp only [Element.lineRange]
  omega

/-- A page with a script whose opening tag goes over two lines. -/
def spreadTag : Text := "<p>\n<script\nsrc=\"a.js\">f()\n</script>".toList

/-- The script of `spreadTag`. -/
def spreadScript : Element :=
  ⟨.script, "<script\nsrc=\"a.js\">".toList, "f()\n".toList, "</script>".toList, 4, 2⟩

/-- The content is said to be on lines 2 and 3, and it is on lines 3 and 4. -/
theorem lineRange_position_iff_spreadTag :
    spreadScript ∈ elements .script spreadTag ∧ spreadScript.lineRange = (2, 3) ∧
      (Text.position spreadTag spreadScript.contentOffset).1 = 3 ∧
      (Text.position spreadTag spreadScript.contentEnd).1 = 4 := by
  have hScript : spreadScript ∈ elements .script spreadTag := by decide +kernel
  obtain ⟨-, hContent, hEnd, -⟩ := lineRange_position_iff hScript
  exact ⟨hScript, by decide, hContent, hEnd⟩

end Document

end SketchRepair
