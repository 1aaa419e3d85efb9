import SketchRepair.Proofs.Document.InPlace
import SketchRepair.Proofs.Document.Outside

/-!
# SketchRepair — how a page is laid out

The elements of one kind are found by a search that goes forward and looks at nothing but
their tags. What it finds can be checked without it. A page is laid out as gaps and
elements in turn, and each element stands where its offsets say. No opening tag begins in
a gap, and behind the last element no element is left: no opening tag there has both a `>`
and a closing tag to follow. A page cannot be laid out in two ways, so the search finds all
of that and nothing else.

* `Element.WellFormed` — what the text of an element is;
* `LaidOut` — a page as gaps and elements, by rules;
* `LaidOut.unique` — there is one layout;
* `LaidOut.between` — what stands at the offsets of an element;
* `elements_laidOut` — **elements are the layout of their page**, for scripts and sheets.
-/

namespace SketchRepair

namespace Document

variable {tag : Tag} {e : Element} {es : List Element} {page passed t : Text}

-- ---------------------------------------------------------------------------
-- Elements
-- ---------------------------------------------------------------------------

/-- The text of an element: an opening tag whose only `>` is its last character, a content
without a closing tag, and a closing tag, in any letter case. -/
structure Element.WellFormed (tag : Tag) (e : Element) : Prop where
  kind : e.tag = tag
  opens : tag.opener <+: e.opening.map fold
  ends : ∃ inner, e.opening = inner ++ ['>'] ∧ '>' ∉ inner
  content : ¬ tag.closer <:+: e.content.map fold
  closing : e.closing.map fold = tag.closer

/-- An opening tag, a `>` behind it and a closing tag behind that stand in the text. -/
def HoldsElement (tag : Tag) (t : Text) : Prop :=
  ∃ before opener between content closer behind,
    t = before ++ (opener ++ between ++ '>' :: (content ++ closer ++ behind)) ∧
      opener.map fold = tag.opener ∧ closer.map fold = tag.closer

theorem Tag.gt_not_mem_opener (tag : Tag) : '>' ∉ tag.opener := by
  cases tag <;> decide

/-- The first `>` of an opening tag is its last character. -/
theorem isOpening_iff {opening : Text} : IsOpening tag opening ↔
    tag.opener <+: opening.map fold ∧ ∃ inner, opening = inner ++ ['>'] ∧ '>' ∉ inner := by
  constructor
  · rintro ⟨h, inner, rfl, hh, hNone⟩
    have hOpener : '>' ∉ h := fun hMem =>
      tag.gt_not_mem_opener (hh ▸ List.mem_map.mpr ⟨'>', hMem, rfl⟩)
    refine ⟨?_, h ++ inner, rfl, ?_⟩
    · rw [List.append_assoc, List.map_append, hh]
      exact List.prefix_append ..
    · rw [List.mem_append, not_or]
      exact ⟨hOpener, hNone⟩
  · rintro ⟨hOpens, inner, rfl, hNone⟩
    rw [List.map_append] at hOpens
    rcases Text.prefix_append_iff.mp hOpens with ⟨r, hr⟩ | ⟨q, hq, hOpener⟩
    · obtain ⟨h, rest, rfl, hh, -⟩ := List.map_eq_append_iff.mp hr.symm
      exact ⟨h, rest, rfl, hh, fun hMem => hNone (List.mem_append_right h hMem)⟩
    · -- an opener does not reach to the `>`
      cases q with
      | nil =>
        rw [List.append_nil] at hOpener
        exact ⟨inner, [], by rw [List.append_nil], hOpener.symm, List.not_mem_nil⟩
      | cons c q =>
        have hc : c = '>' := (List.cons_prefix_cons.mp hq).1
        have hMem : c ∈ tag.opener := hOpener ▸ List.mem_append_right _ (List.mem_cons_self ..)
        exact absurd (hc ▸ hMem) tag.gt_not_mem_opener

theorem isTail_iff : IsTail tag t ↔ ¬ HoldsElement tag t := by
  constructor
  · rintro hTail ⟨before, opener, between, content, closer, behind, rfl, hOpener, hCloser⟩
    exact element?_ne_none hOpener hCloser (hTail _ (List.suffix_append ..))
  · intro hNone s hs
    refine Option.eq_none_iff_forall_ne_some.mpr fun found hFound => hNone ?_
    obtain ⟨opening, content, closing, rest⟩ := found
    obtain ⟨⟨h, inner, rfl, hh, -⟩, -, hClosing, rfl⟩ := element?_eq_some_iff.mp hFound
    obtain ⟨before, rfl⟩ := hs
    exact ⟨before, h, inner, content, closing, rest, by simp, hh, hClosing⟩

-- ---------------------------------------------------------------------------
-- Layouts
-- ---------------------------------------------------------------------------

/-- A page behind a text that was passed, laid out as gaps and elements. Each element knows
how much stands before it, and on which line it begins. -/
inductive LaidOut (tag : Tag) : (passed page : Text) → List Element → Prop where
  | tail {passed tail : Text} (hTail : ¬ HoldsElement tag tail) : LaidOut tag passed tail []
  | element {passed gap rest : Text} {e : Element} {es : List Element}
      (hGap : ¬ tag.opener <:+: gap.map fold) (hFormed : e.WellFormed tag)
      (hOffset : e.offset = (passed ++ gap).length)
      (hLine : e.line = 1 + (passed ++ gap).count '\n')
      (hRest : LaidOut tag (passed ++ gap ++ e.text) rest es) :
      LaidOut tag passed (gap ++ e.text ++ rest) (e :: es)

/-- Pieces make up a layout. -/
theorem laidOut_locate {tail : Text} (hTail : IsTail tag tail) (ps : List Piece) :
    ∀ passed : Text, (∀ p ∈ ps, p.IsElement tag) →
      LaidOut tag passed (assemble ps tail)
        (locate tag passed.length (1 + passed.count '\n') ps) := by
  induction ps with
  | nil => exact fun passed _ => .tail (isTail_iff.mp hTail)
  | cons p ps ih =>
    intro passed h
    obtain ⟨hHere, hLater⟩ := List.forall_mem_cons.mp h
    have hRest := ih (passed ++ p.text) hLater
    have hPage : assemble (p :: ps) tail = p.gap ++ p.own ++ assemble ps tail := by
      rw [assemble_cons_own, List.append_assoc]
    obtain ⟨hOpens, hEnds⟩ := isOpening_iff.mp hHere.opening
    have hFormed (offset line : Nat) :
        (⟨tag, p.opening, p.content, p.closing, offset, line⟩ : Element).WellFormed tag :=
      ⟨rfl, hOpens, hEnds, hHere.content, hHere.closing⟩
    rw [hPage, locate]
    refine .element hHere.gap (hFormed _ _) ?_ ?_ ?_
    · rw [List.length_append]
    · rw [List.count_append, Nat.add_assoc]
    · rw [List.length_append, List.count_append, ← Nat.add_assoc, Piece.text_eq,
        ← List.append_assoc] at hRest
      rw [Piece.text_eq]
      exact hRest

/-- A layout comes from pieces. -/
theorem LaidOut.exists_pieces (h : LaidOut tag passed page es) : ∃ ps tail,
    page = assemble ps tail ∧ (∀ p ∈ ps, p.IsElement tag) ∧ IsTail tag tail ∧
      es = locate tag passed.length (1 + passed.count '\n') ps := by
  induction h with
  | @tail passed tail hTail =>
    exact ⟨[], tail, rfl, List.forall_mem_nil _, isTail_iff.mpr hTail, rfl⟩
  | @element passed gap rest e es hGap hFormed hOffset hLine hRest ih =>
    obtain ⟨ps, tail, rfl, hPieces, hTail, rfl⟩ := ih
    obtain ⟨rfl, hOpens, hEnds, hContent, hClosing⟩ := hFormed
    refine ⟨⟨gap, e.opening, e.content, e.closing⟩ :: ps, tail, ?_, ?_, hTail, ?_⟩
    · rw [assemble_cons_own, List.append_assoc]
      rfl
    · exact List.forall_mem_cons.mpr
        ⟨⟨hGap, isOpening_iff.mpr ⟨hOpens, hEnds⟩, hContent, hClosing⟩, hPieces⟩
    · have hText : Piece.text ⟨gap, e.opening, e.content, e.closing⟩ = gap ++ e.text :=
        Piece.text_eq _
      rw [List.length_append] at hOffset
      rw [List.count_append, ← Nat.add_assoc] at hLine
      rw [locate, hText, ← hOffset, ← hLine, ← List.length_append, Nat.add_assoc,
        ← List.count_append, ← List.append_assoc]

/-- There is one layout. -/
theorem LaidOut.unique (h : LaidOut tag [] page es) : es = elements tag page := by
  obtain ⟨ps, tail, rfl, hPieces, hTail, rfl⟩ := h.exists_pieces
  rw [elements, dissect_assemble hPieces hTail]
  rfl

/-- What stands in the page at the offsets of an element, and of its content. -/
theorem LaidOut.between (h : LaidOut tag passed page es) : ∀ e ∈ es,
    Text.between (e.offset, e.endOffset) (passed ++ page) = e.text ∧
      Text.between (e.contentOffset, e.contentEnd) (passed ++ page) = e.content := by
  induction h with
  | tail => exact List.forall_mem_nil _
  | @element passed gap rest e es hGap hFormed hOffset hLine hRest ih =>
    refine List.forall_mem_cons.mpr ⟨⟨?_, ?_⟩, ?_⟩
    · have hEnd : e.endOffset = (passed ++ gap ++ e.text).length := by
        rw [Element.endOffset, hOffset, ← List.length_append]
      rw [hOffset, hEnd, ← List.append_assoc, ← List.append_assoc]
      exact between_append ..
    · have hFrom : e.contentOffset = (passed ++ gap ++ e.opening).length := by
        rw [Element.contentOffset, hOffset, ← List.length_append]
      have hTo : e.contentEnd = (passed ++ gap ++ e.opening ++ e.content).length := by
        rw [Element.contentEnd, hFrom, ← List.length_append]
      have hHere := between_append (passed ++ gap ++ e.opening) e.content (e.closing ++ rest)
      rw [hFrom, hTo]
      simpa [Element.text] using hHere
    · intro d hd
      simpa using ih d hd

-- ---------------------------------------------------------------------------
-- What is found
-- ---------------------------------------------------------------------------

/-- **Elements are the layout of their page**: the page is laid out as gaps and the elements
found in it, and in no other way; each stands at its offsets; and those that are listed
when blank ones are left out are the ones with a content that is not blank. -/
theorem elements_laidOut (tag : Tag) (page : Text) :
    LaidOut tag [] page (elements tag page) ∧
      (∀ es, LaidOut tag [] page es → es = elements tag page) ∧
      (∀ e ∈ elements tag page, Text.between (e.offset, e.endOffset) page = e.text ∧
        Text.between (e.contentOffset, e.contentEnd) page = e.content) ∧
      inhabited tag page =
        (elements tag page).filter fun e => e.content.any fun c => !isBlank c := by
  obtain ⟨hPieces, hTail⟩ := dissect_isElement tag page
  have hLaidOut : LaidOut tag [] page (elements tag page) := by
    have hLocated := laidOut_locate hTail (dissect tag page).1 [] hPieces
    rwa [assemble_dissect] at hLocated
  refine ⟨hLaidOut, fun es h => h.unique, hLaidOut.between, ?_⟩
  rw [inhabited]
  refine List.filter_congr fun e _ => ?_
  rw [Element.isBlank, Text.allBlank, List.not_all_eq_any_not]

/-- An opening tag goes on to its first `>`, over another one that begins in it; the last
one is never closed. -/
example : elements .script "<script <SCRIPT a>f()</Script><script>".toList =
    [⟨.script, "<script <SCRIPT a>".toList, "f()".toList, "</Script>".toList, 0, 1⟩] := by
  decide +kernel

end Document

end SketchRepair
