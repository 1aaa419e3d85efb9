import SketchRepair.Proofs.Text.Occurrence
import SketchRepair.Text.Blank

/-!
# SketchRepair — texts put into a text

Mechanical repairs keep a text but for a few fixed texts, which they put between its
characters or in the place of some. Whatever such a repair does, a pattern that is
clear of the texts it puts in occurs only where it did before; so no repair of this
kind closes an element or makes another kind of script.

* `Spliced.infix_of` — no pattern occurs that did not;
* `Spliced.map_fold` — the same without regard to case;
* `Spliced.allBlank_eq_false` — what is not blank stays so.
-/

namespace SketchRepair

namespace Text

/-- The second text is the first with some of the texts `news` in it, each of them in
the place of a part of it, which may be empty. -/
inductive Spliced (news : List Text) : Text → Text → Prop where
  | nil : Spliced news [] []
  | keep (c : Char) {t u : Text} (h : Spliced news t u) : Spliced news (c :: t) (c :: u)
  | put {new t u : Text} (old : Text) (hNew : new ∈ news) (h : Spliced news t u) :
      Spliced news (old ++ t) (new ++ u)

namespace Spliced

variable {news : List Text} {p t u : Text}

/-- A beginning of what is left of a clear pattern stands already in the text. -/
theorem prefix_of (h : Spliced news t u) (hClear : ∀ new ∈ news, Clear p new) :
    ∀ {y : Text}, y <:+ p → y <+: u → y <+: t := by
  induction h with
  | nil =>
    intro y _ hPrefix
    exact hPrefix
  | keep c _ ih =>
    intro y hy hPrefix
    rcases List.prefix_cons_iff.mp hPrefix with rfl | ⟨z, rfl, hz⟩
    · exact List.nil_prefix
    · have hLater := ih ((List.suffix_cons c z).trans hy) hz
      exact List.cons_prefix_cons.mpr ⟨rfl, hLater⟩
  | put old hNew _ _ =>
    intro y hy hPrefix
    rw [(hClear _ hNew).eq_nil_of_isPrefix hy hPrefix]
    exact List.nil_prefix

/-- A pattern that is clear of the texts put in occurs only where it did before. -/
theorem infix_of (h : Spliced news t u) (hClear : ∀ new ∈ news, Clear p new) :
    p <:+: u → p <:+: t := by
  induction h with
  | nil => exact id
  | keep c hRest ih =>
    intro hInfix
    rcases List.infix_cons_iff.mp hInfix with hHere | hLater
    · have hPrefix := (Spliced.keep c hRest).prefix_of hClear (List.suffix_refl p) hHere
      exact hPrefix.isInfix
    · exact (ih hLater).trans (List.suffix_cons c _).isInfix
  | put old hNew _ ih =>
    intro hInfix
    have hBehind := ih ((hClear _ hNew).infix_of_append hInfix)
    exact hBehind.trans (List.suffix_append old _).isInfix

theorem map_fold (h : Spliced news t u) :
    Spliced (news.map (·.map fold)) (t.map fold) (u.map fold) := by
  induction h with
  | nil => exact .nil
  | keep c _ ih => exact .keep (fold c) ih
  | put old hNew _ ih =>
    rw [List.map_append, List.map_append]
    exact .put (old.map fold) (List.mem_map_of_mem hNew) ih

/-- A text that is not blank does not become blank, if what is put in is not. -/
theorem allBlank_eq_false (h : Spliced news t u) (hNews : ∀ new ∈ news, allBlank new = false) :
    allBlank t = false → allBlank u = false := by
  unfold allBlank at hNews ⊢
  induction h with
  | nil => exact id
  | keep c _ ih =>
    intro hSolid
    rw [List.all_cons, Bool.and_eq_false_iff] at hSolid ⊢
    exact hSolid.imp_right ih
  | put old hNew _ _ =>
    intro _
    rw [List.all_append, hNews _ hNew, Bool.false_and]

end Spliced

end Text

end SketchRepair
