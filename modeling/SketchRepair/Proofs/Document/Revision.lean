import SketchRepair.Proofs.Descending
import SketchRepair.Proofs.Document.Dissection

/-!
# SketchRepair — new contents for elements of a page

Repairs find elements in a page, and later put new contents in the places of the old
ones. The places are offsets into the page as it was. Because the last content is
exchanged first, every offset is still right when its turn comes, and what results
is the page with its pieces revised one by one.

* `replaceContents_eq` — exchanging contents revises the pieces, in whatever order
  the new contents are given;
* `dissect_replaceContents` — a page with new contents comes apart at the same places,
  if no new content holds a closing tag.
-/

namespace SketchRepair

namespace Document

variable {tag : Tag}

/-- The elements that `f` has a new content for, each with that content. -/
def updatesOf (f : Element → Option Text) (es : List Element) : List (Element × Text) :=
  es.filterMap fun e => (f e).map fun new => (e, new)

/-- The pieces with the contents that `f` has for their elements. -/
def revised (f : Element → Option Text) (tag : Tag) (offset line : Nat) (ps : List Piece) :
    List Piece :=
  List.zipWith (fun p e => { p with content := (f e).getD p.content }) ps
    (locate tag offset line ps)

-- ---------------------------------------------------------------------------
-- Offsets
-- ---------------------------------------------------------------------------

/-- An element is made up like a piece. -/
theorem exists_piece_of_mem_locate {ps : List Piece} {e : Element} :
    ∀ {offset line : Nat}, e ∈ locate tag offset line ps →
      ∃ p ∈ ps, e.opening = p.opening ∧ e.content = p.content ∧ e.closing = p.closing := by
  induction ps with
  | nil =>
    intro offset line he
    simp [locate] at he
  | cons p ps ih =>
    intro offset line he
    rw [locate] at he
    rcases List.mem_cons.mp he with rfl | he'
    · exact ⟨p, List.mem_cons_self .., rfl, rfl, rfl⟩
    · obtain ⟨q, hq, hSame⟩ := ih he'
      exact ⟨q, List.mem_cons_of_mem _ hq, hSame⟩

/-- The elements have the contents of their pieces. -/
theorem map_content_locate (ps : List Piece) : ∀ (offset line : Nat),
    (locate tag offset line ps).map (·.content) = ps.map (·.content) := by
  induction ps with
  | nil =>
    intro offset line
    rfl
  | cons p ps ih =>
    intro offset line
    rw [locate, List.map_cons, List.map_cons, ih]

theorem lt_contentOffset_of_mem {ps : List Piece} (hOpening : ∀ p ∈ ps, p.opening ≠ []) :
    ∀ {offset line : Nat}, ∀ e ∈ locate tag offset line ps, offset < e.contentOffset := by
  induction ps with
  | nil =>
    intro offset line e he
    simp [locate] at he
  | cons p ps ih =>
    intro offset line e he
    have hp : 0 < p.opening.length :=
      List.length_pos_iff.mpr (hOpening p (List.mem_cons_self ..))
    rw [locate] at he
    rcases List.mem_cons.mp he with rfl | he'
    · show offset < offset + p.gap.length + p.opening.length
      omega
    · have := ih (fun q hq => hOpening q (List.mem_cons_of_mem _ hq)) e he'
      omega

/-- Contents come one behind the other. -/
theorem locate_ascending {ps : List Piece} (hOpening : ∀ p ∈ ps, p.opening ≠ []) :
    ∀ {offset line : Nat}, (locate tag offset line ps).Pairwise fun a b =>
      a.contentOffset < b.contentOffset := by
  induction ps with
  | nil =>
    intro offset line
    simp [locate]
  | cons p ps ih =>
    intro offset line
    have hRest : ∀ q ∈ ps, q.opening ≠ [] := fun q hq => hOpening q (List.mem_cons_of_mem _ hq)
    rw [locate, List.pairwise_cons]
    refine ⟨?_, ih hRest⟩
    intro e he
    have hLater := lt_contentOffset_of_mem hRest e he
    have hText : p.text.length =
        p.gap.length + p.opening.length + p.content.length + p.closing.length := by
      simp [Piece.text]
      omega
    show offset + p.gap.length + p.opening.length < e.contentOffset
    omega

theorem updatesOf_ascending {f : Element → Option Text} {es : List Element}
    (h : es.Pairwise fun a b => a.contentOffset < b.contentOffset) :
    (updatesOf f es).Pairwise fun a b => a.1.contentOffset < b.1.contentOffset := by
  rw [updatesOf, List.pairwise_filterMap]
  refine h.imp ?_
  intro a b hab u hu v hv
  obtain ⟨_, -, rfl⟩ := Option.map_eq_some_iff.mp hu
  obtain ⟨_, -, rfl⟩ := Option.map_eq_some_iff.mp hv
  exact hab

theorem opening_ne_nil {p : Piece} (h : p.IsElement tag) : p.opening ≠ [] := by
  obtain ⟨a, inner, hOpening, -, -⟩ := h.opening
  rw [hOpening]
  simp

theorem elements_ascending (tag : Tag) (page : Text) :
    (elements tag page).Pairwise fun a b => a.contentOffset < b.contentOffset :=
  locate_ascending fun p hp => opening_ne_nil ((dissect_isElement tag page).1 p hp)

/-- No element is found twice. -/
theorem nodup_elements (tag : Tag) (page : Text) : (elements tag page).Nodup := by
  refine (elements_ascending tag page).imp ?_
  rintro a b hab rfl
  exact absurd hab (Nat.lt_irrefl _)

-- ---------------------------------------------------------------------------
-- Revised pages
-- ---------------------------------------------------------------------------

/-- Exchanging the content of a piece of which `before` is passed. -/
theorem replaceContent_piece (before r new : Text) (p : Piece) (line : Nat) :
    (⟨tag, p.opening, p.content, p.closing, before.length + p.gap.length, line⟩ :
        Element).replaceContent new (before ++ (p.text ++ r)) =
      before ++ (Piece.text { p with content := new } ++ r) := by
  have hOffset : (⟨tag, p.opening, p.content, p.closing, before.length + p.gap.length, line⟩ :
      Element).contentOffset = (before ++ p.gap ++ p.opening).length := by
    simp [Element.contentOffset, Nat.add_assoc]
  have hEnd : (⟨tag, p.opening, p.content, p.closing, before.length + p.gap.length, line⟩ :
      Element).contentEnd = (before ++ p.gap ++ p.opening ++ p.content).length := by
    simp [Element.contentEnd, Element.contentOffset]
    omega
  have hSplit : before ++ (p.text ++ r) =
      before ++ p.gap ++ p.opening ++ p.content ++ (p.closing ++ r) := by
    simp [Piece.text]
  rw [Element.replaceContent, hSplit, hEnd, List.drop_left, hOffset,
    List.append_assoc (before ++ p.gap ++ p.opening), List.take_left]
  simp [Piece.text]

/-- Contents exchanged from the last to the first, in a page of which `before` has
been passed. -/
theorem foldr_replaceContent (tag : Tag) (f : Element → Option Text) (tail : Text) (ps : List Piece) :
    ∀ (before : Text) (line : Nat),
      (updatesOf f (locate tag before.length line ps)).foldr
          (fun u page => u.1.replaceContent u.2 page) (before ++ assemble ps tail) =
        before ++ assemble (revised f tag before.length line ps) tail := by
  induction ps with
  | nil =>
    intro before line
    rfl
  | cons p ps ih =>
    intro before line
    have hRest := ih (before ++ p.text) (line + p.text.count '\n')
    rw [List.length_append] at hRest
    have hPage : before ++ assemble (p :: ps) tail = before ++ p.text ++ assemble ps tail := by
      simp [assemble]
    rw [hPage, locate, updatesOf, List.filterMap_cons, revised, locate, List.zipWith_cons_cons]
    generalize hElement : (⟨tag, p.opening, p.content, p.closing, before.length + p.gap.length,
      line + p.gap.count '\n'⟩ : Element) = e
    rw [updatesOf, revised] at hRest
    cases hf : f e with
    | none =>
      rw [Option.map_none]
      simp only [hRest]
      simp [assemble]
    | some new =>
      rw [Option.map_some]
      simp only [List.foldr_cons, hRest]
      rw [← hElement, List.append_assoc, replaceContent_piece]
      simp [assemble]

/-- Exchanging the contents of elements of a page revises its pieces. -/
theorem replaceContents_eq {f : Element → Option Text} {page : Text}
    {updates : List (Element × Text)} (h : updates.Perm (updatesOf f (elements tag page))) :
    replaceContents updates page =
      assemble (revised f tag 0 1 (dissect tag page).1) (dissect tag page).2 := by
  have hAscending : (updatesOf f (elements tag page)).Pairwise fun a b =>
      a.1.contentOffset < b.1.contentOffset :=
    updatesOf_ascending (elements_ascending tag page)
  have hSort : (updates.mergeSort fun a b => b.1.contentOffset ≤ a.1.contentOffset) =
      (updatesOf f (elements tag page)).reverse := by
    refine mergeSort_eq_reverse (fun u => (u.1.contentOffset : Int)) ?_ h ?_
    · intro a b
      rw [decide_eq_true_eq, Int.ofNat_le]
    · exact hAscending.imp fun hab => Int.ofNat_lt.mpr hab
  have hFold : (updatesOf f (elements tag page)).foldr
      (fun u page => u.1.replaceContent u.2 page) page =
        assemble (revised f tag 0 1 (dissect tag page).1) (dissect tag page).2 := by
    have := foldr_replaceContent tag f (dissect tag page).2 (dissect tag page).1 [] 1
    rw [List.nil_append, List.nil_append, assemble_dissect] at this
    exact this
  rw [replaceContents, hSort, List.foldl_reverse]
  exact hFold

/-- The content of an element holds no closing tag. -/
theorem isContent_of_mem_elements {page : Text} {e : Element} (he : e ∈ elements tag page) :
    IsContent tag e.content := by
  obtain ⟨p, hp, -, hContent, -⟩ := exists_piece_of_mem_locate he
  rw [hContent]
  exact ((dissect_isElement tag page).1 p hp).content

theorem revised_isElement {f : Element → Option Text} {offset line : Nat} {ps : List Piece}
    (hPieces : ∀ p ∈ ps, p.IsElement tag)
    (hNew : ∀ e ∈ locate tag offset line ps, ∀ new, f e = some new → IsContent tag new) :
    ∀ p ∈ revised f tag offset line ps, p.IsElement tag := by
  intro q hq
  rw [revised, List.mem_iff_getElem?] at hq
  obtain ⟨i, hi⟩ := hq
  obtain ⟨p, e, hp, he, rfl⟩ := List.getElem?_zipWith_eq_some.mp hi
  have hPiece := hPieces p (List.mem_of_getElem? hp)
  refine ⟨hPiece.gap, hPiece.opening, ?_, hPiece.closing⟩
  cases hf : f e with
  | none => simpa using hPiece.content
  | some new => simpa using hNew e (List.mem_of_getElem? he) new hf

/-- With new contents a page comes apart at the same places. -/
theorem dissect_replaceContents {f : Element → Option Text} {page : Text}
    {updates : List (Element × Text)} (h : updates.Perm (updatesOf f (elements tag page)))
    (hNew : ∀ e ∈ elements tag page, ∀ new, f e = some new → IsContent tag new) :
    dissect tag (replaceContents updates page) =
      (revised f tag 0 1 (dissect tag page).1, (dissect tag page).2) := by
  obtain ⟨hPieces, hTail⟩ := dissect_isElement tag page
  rw [replaceContents_eq h]
  exact dissect_assemble (revised_isElement hPieces hNew) hTail

/-- Where the new content depends on the old one only, each piece is revised by
itself. -/
theorem revised_eq_map {f : Element → Option Text} {g : Text → Option Text}
    (h : ∀ e, f e = g e.content) (ps : List Piece) : ∀ (offset line : Nat),
      revised f tag offset line ps =
        ps.map fun p => { p with content := (g p.content).getD p.content } := by
  induction ps with
  | nil =>
    intro offset line
    rfl
  | cons p ps ih =>
    intro offset line
    have hRest := ih (offset + p.text.length) (line + p.text.count '\n')
    rw [revised] at hRest ⊢
    rw [locate, List.zipWith_cons_cons, hRest, h, List.map_cons]

end Document

end SketchRepair
