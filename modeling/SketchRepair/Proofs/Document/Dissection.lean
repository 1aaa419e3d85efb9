import SketchRepair.Document.Element
import SketchRepair.Proofs.Text.Occurrence

/-!
# SketchRepair — what taking a page apart means

`dissect` finds the elements of one kind by searching forward. What it finds can be
said without any search: a page is a sequence of pieces, each with a gap in which no
opening tag begins, an opening tag that ends at its first `>`, a content in which no
closing tag occurs, and a closing tag; and in the text behind the last piece no
element begins. There is only one way to write a page like that.

Main results:

* `element?_eq_some_iff` — what it is to be an element;
* `dissect_isElement` — what `dissect` finds is of that form;
* `dissect_assemble` — whatever is of that form is found by `dissect`.

Together they make the pieces of a page independent of each other: a content may be
exchanged for any text without a closing tag, and the page still comes apart at the
same places.
-/

namespace SketchRepair

namespace Document

variable {tag : Tag} {t rest : Text}

-- ---------------------------------------------------------------------------
-- Tags
-- ---------------------------------------------------------------------------

namespace Tag

theorem opener_eq (tag : Tag) : tag.opener = '<' :: tag.name := rfl

theorem closer_eq (tag : Tag) : tag.closer = '<' :: '/' :: (tag.name ++ ['>']) := by
  simp [closer]

/-- An opening tag begins only where its first character stands. -/
theorem lt_not_mem_name (tag : Tag) : '<' ∉ tag.name := by
  cases tag <;> decide

theorem lt_not_mem_closer_tail (tag : Tag) : '<' ∉ '/' :: (tag.name ++ ['>']) := by
  cases tag <;> decide

end Tag

/-- An opening tag: it begins like one in any letter case, and its first `>` is its
last character but for those in its beginning. -/
def IsOpening (tag : Tag) (opening : Text) : Prop :=
  ∃ h inner, opening = h ++ inner ++ ['>'] ∧ h.map fold = tag.opener ∧ '>' ∉ inner

/-- A closing tag in any letter case. -/
def IsClosing (tag : Tag) (closing : Text) : Prop := closing.map fold = tag.closer

/-- A text in which no closing tag occurs. -/
def IsContent (tag : Tag) (content : Text) : Prop := ¬ tag.closer <:+: content.map fold

instance (closing : Text) : Decidable (IsClosing tag closing) :=
  inferInstanceAs (Decidable (closing.map fold = tag.closer))

instance (content : Text) : Decidable (IsContent tag content) :=
  inferInstanceAs (Decidable (¬ tag.closer <:+: content.map fold))

theorem openingTag?_eq_some_iff {opening : Text} :
    openingTag? tag t = some (opening, rest) ↔ IsOpening tag opening ∧ t = opening ++ rest := by
  rw [openingTag?]
  constructor
  · intro hFound
    split at hFound
    · simp at hFound
    · next r hr =>
      obtain ⟨h, rfl, hh⟩ := Text.afterFold?_eq_some_iff.mp hr
      have hLength : h.length = tag.opener.length := by rw [← hh, List.length_map]
      obtain ⟨⟨inner, s⟩, hi, he⟩ := Option.map_eq_some_iff.mp hFound
      obtain ⟨rfl, hNot⟩ := Text.upTo?_eq_some.mp hi
      rw [← hLength, List.take_left, Prod.mk.injEq] at he
      obtain ⟨rfl, rfl⟩ := he
      exact ⟨⟨h, inner, rfl, hh, hNot⟩, by simp⟩
  · rintro ⟨⟨h, inner, rfl, hh, hNot⟩, rfl⟩
    have hLength : h.length = tag.opener.length := by rw [← hh, List.length_map]
    have hAfter : Text.afterFold? tag.opener (h ++ inner ++ ['>'] ++ rest) =
        some (inner ++ '>' :: rest) :=
      Text.afterFold?_eq_some_iff.mpr ⟨h, by simp, hh⟩
    rw [hAfter]
    have hUpTo : Text.upTo? '>' (inner ++ '>' :: rest) = some (inner, rest) :=
      Text.upTo?_eq_some.mpr ⟨rfl, hNot⟩
    simp [hUpTo, ← hLength]

theorem closingTag?_eq_some_iff {closing : Text} :
    closingTag? tag t = some (closing, rest) ↔ IsClosing tag closing ∧ t = closing ++ rest := by
  rw [closingTag?, Option.map_eq_some_iff]
  constructor
  · rintro ⟨r, hr, he⟩
    obtain ⟨h, rfl, hh⟩ := Text.afterFold?_eq_some_iff.mp hr
    have hLength : h.length = tag.closer.length := by rw [← hh, List.length_map]
    rw [← hLength, List.take_left, Prod.mk.injEq] at he
    obtain ⟨rfl, rfl⟩ := he
    exact ⟨hh, rfl⟩
  · rintro ⟨hh, rfl⟩
    have hLength : closing.length = tag.closer.length := by rw [← hh, List.length_map]
    exact ⟨rest, Text.afterFold?_eq_some_iff.mpr ⟨closing, rfl, hh⟩, by rw [← hLength]; simp⟩

theorem closingTag?_eq_none_iff : closingTag? tag t = none ↔ ¬ tag.closer <+: t.map fold := by
  rw [closingTag?, Option.map_eq_none_iff, Text.afterFold?_eq_none_iff]

-- ---------------------------------------------------------------------------
-- Elements
-- ---------------------------------------------------------------------------

/-- A closing tag follows a text without one exactly where it stands. -/
theorem search_closingTag?_eq_some_iff {content closing : Text} :
    Text.search (closingTag? tag) t = some (content, closing, rest) ↔
      IsContent tag content ∧ IsClosing tag closing ∧ t = content ++ closing ++ rest := by
  rw [Text.search_eq_some_iff]
  constructor
  · rintro ⟨u, rfl, hu, hNone⟩
    obtain ⟨hClosing, rfl⟩ := closingTag?_eq_some_iff.mp hu
    refine ⟨?_, hClosing, by simp⟩
    intro hInfix
    -- an occurrence in the content would have been found first
    obtain ⟨s, hs, hv⟩ := Text.exists_suffix_of_infix hInfix
    have hne : s ≠ [] := by
      rintro rfl
      exact absurd (List.prefix_nil.mp hv) (by rw [tag.closer_eq]; simp)
    have := closingTag?_eq_none_iff.mp (hNone s hs hne)
    rw [List.map_append] at this
    exact this (List.prefix_append_of_prefix hv)
  · rintro ⟨hContent, hClosing, rfl⟩
    refine ⟨closing ++ rest, by simp, closingTag?_eq_some_iff.mpr ⟨hClosing, rfl⟩, ?_⟩
    intro s hs hne
    rw [closingTag?_eq_none_iff, List.map_append, List.map_append, hClosing, tag.closer_eq]
    refine Text.not_prefix_over_seam tag.lt_not_mem_closer_tail (by simpa using hne) ?_
    intro hPrefix
    rw [← tag.closer_eq] at hPrefix
    exact hContent (hPrefix.isInfix.trans (hs.map fold).isInfix)

theorem element?_eq_some_iff {opening content closing : Text} :
    element? tag t = some (opening, content, closing, rest) ↔
      IsOpening tag opening ∧ IsContent tag content ∧ IsClosing tag closing ∧
        t = opening ++ content ++ closing ++ rest := by
  rw [element?]
  constructor
  · intro h
    split at h
    · simp at h
    · next o r ho =>
      obtain ⟨hOpening, rfl⟩ := openingTag?_eq_some_iff.mp ho
      obtain ⟨⟨c, d, s⟩, hs, he⟩ := Option.map_eq_some_iff.mp h
      obtain ⟨rfl, rfl, rfl, rfl⟩ : o = opening ∧ c = content ∧ d = closing ∧ s = rest := by
        simpa using he
      obtain ⟨hContent, hClosing, rfl⟩ := search_closingTag?_eq_some_iff.mp hs
      exact ⟨hOpening, hContent, hClosing, by simp⟩
  · rintro ⟨hOpening, hContent, hClosing, rfl⟩
    have ho : openingTag? tag (opening ++ content ++ closing ++ rest) =
        some (opening, content ++ closing ++ rest) :=
      openingTag?_eq_some_iff.mpr ⟨hOpening, by simp⟩
    have hs : Text.search (closingTag? tag) (content ++ closing ++ rest) =
        some (content, closing, rest) :=
      search_closingTag?_eq_some_iff.mpr ⟨hContent, hClosing, rfl⟩
    rw [ho]
    simp only [hs, Option.map_some]

/-- Where an opening tag begins, an element begins, if only a `>` and a closing tag
follow somewhere. -/
theorem element?_ne_none {h x y closing : Text} (hh : h.map fold = tag.opener)
    (hClosing : IsClosing tag closing) :
    element? tag (h ++ x ++ '>' :: (y ++ closing ++ rest)) ≠ none := by
  intro hNone
  -- the tag ends at the first `>`, here or before
  obtain ⟨inner, r, hText, hInner, hr⟩ : ∃ inner r, x ++ '>' :: (y ++ closing ++ rest) =
      inner ++ '>' :: r ∧ '>' ∉ inner ∧ closing ++ rest <:+ r := by
    by_cases hx : '>' ∈ x
    · obtain ⟨a, b, rfl, ha⟩ := List.eq_append_cons_of_mem hx
      exact ⟨a, b ++ '>' :: (y ++ (closing ++ rest)), by simp, ha,
        ⟨b ++ '>' :: y, by simp⟩⟩
    · exact ⟨x, y ++ closing ++ rest, rfl, hx, ⟨y, by simp⟩⟩
  have hOpening : openingTag? tag (h ++ x ++ '>' :: (y ++ closing ++ rest)) =
      some (h ++ inner ++ ['>'], r) :=
    openingTag?_eq_some_iff.mpr ⟨⟨h, inner, rfl, hh, hInner⟩, by simpa using hText⟩
  rw [element?, hOpening] at hNone
  have hSearch := Text.search_eq_none_iff.mp (Option.map_eq_none_iff.mp hNone) _ hr
  rw [closingTag?_eq_some_iff.mpr ⟨hClosing, rfl⟩] at hSearch
  simp at hSearch

-- ---------------------------------------------------------------------------
-- Pieces
-- ---------------------------------------------------------------------------

/-- A piece as a page is made of: an element behind a gap in which no opening tag
begins. -/
structure Piece.IsElement (tag : Tag) (p : Piece) : Prop where
  gap : ¬ tag.opener <:+: p.gap.map fold
  opening : IsOpening tag p.opening
  content : IsContent tag p.content
  closing : IsClosing tag p.closing

/-- A text in which no element begins. -/
def IsTail (tag : Tag) (tail : Text) : Prop := ∀ s, s <:+ tail → element? tag s = none

theorem isTail_nil : IsTail tag [] := by
  intro s hs
  rw [List.suffix_nil.mp hs]
  cases tag <;> rfl

theorem firstPiece?_eq_none_iff : firstPiece? tag t = none ↔ IsTail tag t := by
  rw [firstPiece?, Option.map_eq_none_iff, Text.search_eq_none_iff, IsTail]

theorem firstPiece?_eq_some_iff {p : Piece} :
    firstPiece? tag t = some (p, rest) ↔ p.IsElement tag ∧ t = p.text ++ rest := by
  rw [firstPiece?, Option.map_eq_some_iff]
  constructor
  · rintro ⟨⟨gap, opening, content, closing, rest⟩, hs, he⟩
    obtain ⟨rfl, rfl⟩ := Prod.mk.inj he
    obtain ⟨u, rfl, hu, hNone⟩ := Text.search_eq_some_iff.mp hs
    obtain ⟨hOpening, hContent, hClosing, rfl⟩ := element?_eq_some_iff.mp hu
    refine ⟨⟨?_, hOpening, hContent, hClosing⟩, by simp [Piece.text]⟩
    intro hInfix
    -- an opening tag in the gap would have begun an element
    obtain ⟨x, y, hxy⟩ := hInfix
    rw [List.append_assoc] at hxy
    obtain ⟨g₁, g₂, hGap, -, hg₂⟩ := List.map_eq_append_iff.mp hxy.symm
    obtain ⟨h, g₃, rfl, hh, -⟩ := List.map_eq_append_iff.mp hg₂
    have hGap : gap = g₁ ++ (h ++ g₃) := hGap
    have hne : h ++ g₃ ≠ [] := by
      intro hNil
      rw [(List.append_eq_nil_iff.mp hNil).1, tag.opener_eq] at hh
      simp at hh
    obtain ⟨h', inner, rfl, -, -⟩ := hOpening
    have hText : h ++ g₃ ++ (h' ++ inner ++ ['>'] ++ content ++ closing ++ rest) =
        h ++ (g₃ ++ h' ++ inner) ++ '>' :: (content ++ closing ++ rest) := by
      simp
    have hHere := hNone (h ++ g₃) ⟨g₁, hGap.symm⟩ hne
    rw [hText] at hHere
    exact element?_ne_none hh hClosing hHere
  · rintro ⟨hPiece, rfl⟩
    obtain ⟨gap, opening, content, closing⟩ := p
    obtain ⟨hGap, hOpening, hContent, hClosing⟩ := hPiece
    refine ⟨(gap, opening, content, closing, rest), Text.search_eq_some_iff.mpr ?_, rfl⟩
    refine ⟨opening ++ content ++ closing ++ rest, by simp [Piece.text],
      element?_eq_some_iff.mpr ⟨hOpening, hContent, hClosing, rfl⟩, ?_⟩
    intro s hs hne
    obtain ⟨h, inner, rfl, hh, -⟩ := hOpening
    have hNone : openingTag? tag (s ++ (h ++ inner ++ ['>'] ++ content ++ closing ++ rest)) =
        none := by
      rw [openingTag?]
      have hAfter : Text.afterFold? tag.opener
          (s ++ (h ++ inner ++ ['>'] ++ content ++ closing ++ rest)) = none := by
        rw [Text.afterFold?_eq_none_iff]
        simp only [List.map_append, List.append_assoc]
        rw [hh, tag.opener_eq, List.cons_append]
        refine Text.not_prefix_over_seam tag.lt_not_mem_name (by simpa using hne) ?_
        intro hPrefix
        rw [← tag.opener_eq] at hPrefix
        exact hGap (hPrefix.isInfix.trans (hs.map fold).isInfix)
      rw [hAfter]
    rw [element?, hNone]

-- ---------------------------------------------------------------------------
-- Pages
-- ---------------------------------------------------------------------------

/-- What is found in a page is of the form that a page has. -/
theorem dissect_isElement (tag : Tag) (t : Text) :
    (∀ p ∈ (dissect tag t).1, p.IsElement tag) ∧ IsTail tag (dissect tag t).2 := by
  fun_induction dissect tag t with
  | case1 t h =>
    refine ⟨?_, firstPiece?_eq_none_iff.mp h⟩
    intro p hp
    simp at hp
  | case2 t p rest h ps tail hd ih =>
    rw [hd] at ih
    refine ⟨?_, ih.2⟩
    intro q hq
    rcases List.mem_cons.mp hq with rfl | hq'
    · exact (firstPiece?_eq_some_iff.mp h).1
    · exact ih.1 q hq'

/-- A page is of that form in one way only. -/
theorem dissect_assemble {ps : List Piece} {tail : Text} (hPieces : ∀ p ∈ ps, p.IsElement tag)
    (hTail : IsTail tag tail) : dissect tag (assemble ps tail) = (ps, tail) := by
  induction ps with
  | nil =>
    have hNone := firstPiece?_eq_none_iff.mpr hTail
    rw [dissect]
    split
    · rfl
    · next p rest h =>
      rw [show assemble [] tail = tail from rfl, hNone] at h
      simp at h
  | cons p ps ih =>
    have hFirst : firstPiece? tag (assemble (p :: ps) tail) = some (p, assemble ps tail) :=
      firstPiece?_eq_some_iff.mpr
        ⟨hPieces p (List.mem_cons_self ..), by simp [assemble, List.append_assoc]⟩
    have hRest := ih fun q hq => hPieces q (List.mem_cons_of_mem _ hq)
    rw [dissect]
    split
    · next h =>
      rw [hFirst] at h
      simp at h
    · next q rest h =>
      rw [hFirst, Option.some.injEq, Prod.mk.injEq] at h
      obtain ⟨rfl, rfl⟩ := h
      rw [hRest]

/-- A page that is one script behind a gap. -/
def oneScript (gap content : Text) : Text :=
  gap ++ "<script>".toList ++ content ++ "</script>".toList

theorem dissect_oneScript {gap content : Text} (hGap : ¬ Tag.script.opener <:+: gap.map fold)
    (hContent : IsContent .script content) : dissect .script (oneScript gap content) =
      ([⟨gap, "<script>".toList, content, "</script>".toList⟩], []) := by
  have hClosing : IsClosing .script "</script>".toList := by decide
  have hPieces : ∀ p ∈ [(⟨gap, "<script>".toList, content, "</script>".toList⟩ : Piece)],
      p.IsElement .script := by
    intro p hp
    rw [List.mem_singleton.mp hp]
    exact ⟨hGap, ⟨"<script".toList, [], rfl, by decide, by decide⟩, hContent, hClosing⟩
  have hPage := dissect_assemble hPieces isTail_nil
  rwa [assemble, List.flatMap_singleton, List.append_nil] at hPage

theorem elements_oneScript {gap content : Text} (hGap : ¬ Tag.script.opener <:+: gap.map fold)
    (hContent : IsContent .script content) : elements .script (oneScript gap content) =
      [⟨.script, "<script>".toList, content, "</script>".toList, gap.length,
        1 + gap.count '\n'⟩] := by
  rw [elements, dissect_oneScript hGap hContent, locate, Nat.zero_add]
  rfl

end Document

end SketchRepair
