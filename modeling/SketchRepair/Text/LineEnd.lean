import SketchRepair.Text.Basic

/-!
# SketchRepair — line ends

Files end their lines with a line feed, a carriage return, or both. Within a text
only the line feed ends a line, so the others are replaced when a file is read.

Main statements:

* `unifyLineEnds_eq_self_iff` — exactly the texts without a carriage return stay
  as they are;
* `return_not_mem_unifyLineEnds` — no carriage return is left.
-/

namespace SketchRepair

namespace Text

/-- The text with every line end made a line feed. -/
def unifyLineEnds : Text → Text
  | [] => []
  | '\r' :: '\n' :: t => '\n' :: unifyLineEnds t
  | '\r' :: t => '\n' :: unifyLineEnds t
  | c :: t => c :: unifyLineEnds t

theorem return_not_mem_unifyLineEnds (t : Text) : '\r' ∉ unifyLineEnds t := by
  fun_induction unifyLineEnds t with
  | case1 => simp
  | case2 t ih => simpa using ih
  | case3 t _ ih => simpa using ih
  | case4 c t _ h ih =>
    simp only [List.mem_cons, not_or]
    exact ⟨fun e => h e.symm, ih⟩

theorem unifyLineEnds_eq_self {t : Text} (h : '\r' ∉ t) : unifyLineEnds t = t := by
  fun_induction unifyLineEnds t with
  | case1 => rfl
  | case2 t ih => simp at h
  | case3 t _ ih => simp at h
  | case4 c t _ _ ih => rw [ih fun hm => h (List.mem_cons_of_mem _ hm)]

theorem unifyLineEnds_eq_self_iff {t : Text} : unifyLineEnds t = t ↔ '\r' ∉ t :=
  ⟨fun h => h ▸ return_not_mem_unifyLineEnds t, unifyLineEnds_eq_self⟩

end Text

end SketchRepair
