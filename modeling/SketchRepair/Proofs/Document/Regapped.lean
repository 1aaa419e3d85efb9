import SketchRepair.Proofs.Document.Revision

/-!
# SketchRepair — other texts between the elements

A page is its elements and the gaps between them. When the gaps are exchanged for other
texts, the elements are still found, unless a new gap holds an opening tag that nothing in
the gap closes: such a tag takes in what follows, and the element behind it is lost in a
content. A gap without such a tag may bring in elements of its own.

* `Closed` — every opening tag in a text begins an element of it;
* `Sealed` — and does so whatever follows the text;
* `Regapped` — a page whose gaps were exchanged for closed texts;
* `Regapped.sublist_contents` — the contents of its elements are still there, in order.
-/

namespace SketchRepair

namespace Document

variable {tag : Tag} {t u page : Text} {ps : List Piece}

-- ---------------------------------------------------------------------------
-- Closed texts
-- ---------------------------------------------------------------------------

/-- Every opening tag in the text begins an element of it. -/
def Closed (tag : Tag) (t : Text) : Prop :=
  ∀ s, s <:+ t → tag.opener <+: s.map fold → element? tag s ≠ none

theorem closed_of_no_opener (h : ¬ tag.opener <:+: t.map fold) : Closed tag t := by
  intro s hs hOpener
  exact absurd (hOpener.isInfix.trans (hs.map fold).isInfix) h

/-- Behind the last element of a closed text there is no opening tag. -/
theorem Closed.tail (h : Closed tag t) : ¬ tag.opener <:+: (dissect tag t).2.map fold := by
  intro hInfix
  obtain ⟨s, hs, hOpener⟩ := Text.exists_suffix_of_infix hInfix
  have hSuffix : (dissect tag t).2 <:+ t :=
    ⟨(dissect tag t).1.flatMap Piece.text, assemble_dissect tag t⟩
  exact h s (hs.trans hSuffix) hOpener ((dissect_isElement tag t).2 s hs)

-- ---------------------------------------------------------------------------
-- Sealed texts
-- ---------------------------------------------------------------------------

/-- Every opening tag that begins in the text begins an element, whatever follows. -/
def Sealed (tag : Tag) (t : Text) : Prop :=
  ∀ s, s <:+ t → s ≠ [] → ∀ u, tag.opener <+: (s ++ u).map fold → element? tag (s ++ u) ≠ none

theorem sealed_of_clear (h : Text.Clear tag.opener (t.map fold)) : Sealed tag t := by
  intro s hs hne u hOpener
  rw [List.map_append] at hOpener
  exact absurd hOpener (h.not_isPrefix (hs.map fold) (by simpa using hne))

theorem sealed_of_not_mem (h : '<' ∉ t) : Sealed tag t := by
  intro s hs hne u hOpener
  obtain ⟨c, s, rfl⟩ := List.exists_cons_of_ne_nil hne
  rw [tag.opener_eq, List.cons_append, List.map_cons, List.cons_prefix_cons] at hOpener
  have hc : c = '<' := Text.eq_of_fold_eq (by decide) hOpener.1.symm
  exact absurd (hs.subset (List.mem_cons_self ..)) (hc ▸ h)

theorem Sealed.append (ht : Sealed tag t) (hu : Sealed tag u) : Sealed tag (t ++ u) := by
  intro s hs hne v hOpener
  rcases Text.suffix_append_iff.mp hs with hs | ⟨r, hr, rfl⟩
  · exact hu s hs hne v hOpener
  · cases r with
    | nil => exact hu u (List.suffix_refl u) hne v hOpener
    | cons c r =>
      rw [List.append_assoc] at hOpener ⊢
      exact ht _ hr (List.cons_ne_nil c r) (u ++ v) hOpener

-- ---------------------------------------------------------------------------
-- Other gaps
-- ---------------------------------------------------------------------------

/-- The element of a piece, without the gap before it. -/
def Piece.own (p : Piece) : Text := p.opening ++ p.content ++ p.closing

theorem Piece.text_eq (p : Piece) : p.text = p.gap ++ p.own := by
  simp [Piece.text, Piece.own]

/-- A page with the elements of some pieces, closed texts before each, and any text
behind the last. -/
inductive Regapped (tag : Tag) : List Piece → Text → Prop where
  | nil {tail : Text} : Regapped tag [] tail
  | cons {p : Piece} {ps : List Piece} {gap page : Text} (hGap : Closed tag gap)
      (hRest : Regapped tag ps page) : Regapped tag (p :: ps) (gap ++ (p.own ++ page))

namespace Regapped

/-- Such a page comes apart into pieces of its own, those elements among them. -/
theorem exists_pieces (h : Regapped tag ps page) (hPieces : ∀ p ∈ ps, p.IsElement tag) :
    ∃ qs tail, page = assemble qs tail ∧ (∀ q ∈ qs, q.IsElement tag) ∧ IsTail tag tail ∧
      (ps.map Piece.content).Sublist (qs.map Piece.content) := by
  induction h with
  | @nil tail =>
    obtain ⟨hQs, hTail⟩ := dissect_isElement tag tail
    exact ⟨_, _, (assemble_dissect tag tail).symm, hQs, hTail, List.nil_sublist _⟩
  | @cons p ps gap page hGap hRest ih =>
    obtain ⟨hHere, hLater⟩ := List.forall_mem_cons.mp hPieces
    obtain ⟨qs, tail, rfl, hQs, hTail, hSub⟩ := ih hLater
    -- the gap brings in its own elements, and what is left of it stands before this one
    obtain ⟨hOwn, -⟩ := dissect_isElement tag gap
    have hLast : Piece.IsElement tag { p with gap := (dissect tag gap).2 } :=
      ⟨hGap.tail, hHere.opening, hHere.content, hHere.closing⟩
    refine ⟨(dissect tag gap).1 ++ { p with gap := (dissect tag gap).2 } :: qs, tail, ?_, ?_,
      hTail, ?_⟩
    · conv_lhs => rw [← assemble_dissect tag gap]
      simp [assemble, Piece.text, Piece.own]
    · intro q hq
      rcases List.mem_append.mp hq with hq | hq
      · exact hOwn q hq
      · rcases List.mem_cons.mp hq with rfl | hq
        · exact hLast
        · exact hQs q hq
    · rw [List.map_append, List.map_cons, List.map_cons]
      exact (hSub.cons_cons _).trans (List.sublist_append_right _ _)

/-- The contents of the elements are still there, in order. -/
theorem sublist_contents {page' : Text} (h : Regapped tag (dissect tag page).1 page') :
    ((elements tag page).map (·.content)).Sublist ((elements tag page').map (·.content)) := by
  obtain ⟨qs, tail, rfl, hQs, hTail, hSub⟩ := h.exists_pieces (dissect_isElement tag page).1
  rwa [elements, map_content_locate, elements, map_content_locate, dissect_assemble hQs hTail]

end Regapped

end Document

end SketchRepair
