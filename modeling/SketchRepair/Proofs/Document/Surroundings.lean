import SketchRepair.Proofs.Document.Revision

/-!
# SketchRepair — what new contents leave alone

Whoever exchanges contents relies on two things: that the page still comes apart into
the same elements, and that no text outside of the contents is touched. Offsets say
what is outside: it is what stands before the first content, between one content and
the next, and behind the last. Updates may come in any order, and for any of the
elements; all that is asked of them is that they are for different elements and that
no new content holds a closing tag.

* `surroundings_revised` — the text around contents is that of the pieces without
  their contents;
* `perm_updatesOf_given` — updates for different elements of a page are a choice of
  new contents, shuffled;
* `elements_replaceContents` — the elements of a page with new contents, and the text
  around them.
-/

namespace SketchRepair

namespace Document

variable {tag : Tag} {α : Type} (read : Text → Text → α)

/-- The text of a page around the contents of the given elements, from an offset on:
what stands before the first content, between neighbours, and behind the last. -/
def surroundings (page : Text) : Nat → List Element → List Text
  | start, [] => [page.drop start]
  | start, e :: es =>
    (page.take e.contentOffset).drop start :: surroundings page e.contentEnd es

/-- What an element has become when its content was exchanged for the one that `f` has
for it, if it has one. Its attributes are those that `read` finds in an opening tag. -/
structure IsRevised {α : Type} (read : Text → Text → α) (f : Element → Option Text)
    (e e' : Element) : Prop where
  tag : e'.tag = e.tag
  opening : e'.opening = e.opening
  attributes : read e'.tag.name e'.opening = read e.tag.name e.opening
  closing : e'.closing = e.closing
  content : e'.content = (f e).getD e.content

-- ---------------------------------------------------------------------------
-- Pieces with new contents
-- ---------------------------------------------------------------------------

theorem revised_cons (tag : Tag) (f : Element → Option Text) (offset line : Nat) (p : Piece)
    (ps : List Piece) : ∃ e : Element,
      locate tag offset line (p :: ps) =
        e :: locate tag (offset + p.text.length) (line + p.text.count '\n') ps ∧
      e = ⟨tag, p.opening, p.content, p.closing, offset + p.gap.length,
        line + p.gap.count '\n'⟩ ∧
      revised f tag offset line (p :: ps) = { p with content := (f e).getD p.content } ::
        revised f tag (offset + p.text.length) (line + p.text.count '\n') ps :=
  ⟨_, rfl, rfl, rfl⟩

/-- The elements of revised pieces are the elements revised one by one, wherever they
have moved. -/
theorem locate_revised (f : Element → Option Text) (ps : List Piece) :
    ∀ (offset line offset' line' : Nat),
      List.Forall₂ (IsRevised read f) (locate tag offset line ps)
        (locate tag offset' line' (revised f tag offset line ps)) := by
  induction ps with
  | nil =>
    intro offset line offset' line'
    exact .nil
  | cons p ps ih =>
    intro offset line offset' line'
    obtain ⟨e, hLocate, he, hRevised⟩ := revised_cons tag f offset line p ps
    rw [hLocate, hRevised]
    refine .cons ?_ (ih _ _ _ _)
    subst he
    exact ⟨rfl, rfl, rfl, rfl, rfl⟩

/-- The pieces of a page without their contents, where `before` stands before the
first of them. -/
def framed (tail : Text) : Text → List Piece → List Text
  | before, [] => [before ++ tail]
  | before, p :: ps => (before ++ p.gap ++ p.opening) :: framed tail p.closing ps

theorem framed_revised (f : Element → Option Text) (tail : Text) (ps : List Piece) :
    ∀ (before : Text) (offset line : Nat),
      framed tail before (revised f tag offset line ps) = framed tail before ps := by
  induction ps with
  | nil =>
    intro before offset line
    rfl
  | cons p ps ih =>
    intro before offset line
    obtain ⟨e, -, -, hRevised⟩ := revised_cons tag f offset line p ps
    rw [hRevised, framed, framed, ih]

/-- Around contents stand the pieces without them; `passed` has been gone through, and
`before` is still to be told. -/
theorem surroundings_locate (tag : Tag) (tail : Text) (ps : List Piece) :
    ∀ (passed before : Text) (line : Nat),
      surroundings (passed ++ before ++ assemble ps tail) passed.length
          (locate tag (passed ++ before).length line ps) =
        framed tail before ps := by
  induction ps with
  | nil =>
    intro passed before line
    rw [locate, surroundings, List.append_assoc, List.drop_left]
    rfl
  | cons p ps ih =>
    intro passed before line
    -- the content is passed next, and the closing tag is told behind it
    have hRest := ih (passed ++ before ++ p.gap ++ p.opening ++ p.content) p.closing
      (line + p.text.count '\n')
    have hPage : passed ++ before ++ p.gap ++ p.opening ++ p.content ++ p.closing ++
        assemble ps tail = passed ++ before ++ assemble (p :: ps) tail := by
      simp [assemble, Piece.text]
    have hOffset : (passed ++ before ++ p.gap ++ p.opening ++ p.content ++ p.closing).length =
        (passed ++ before).length + p.text.length := by
      simp only [Piece.text, List.length_append]
      omega
    rw [hPage, hOffset] at hRest
    rw [locate, surroundings, framed]
    have hStart : (⟨tag, p.opening, p.content, p.closing, (passed ++ before).length + p.gap.length,
        line + p.gap.count '\n'⟩ : Element).contentOffset =
          (passed ++ (before ++ p.gap ++ p.opening)).length := by
      simp only [Element.contentOffset, List.length_append]
      omega
    have hStop : (⟨tag, p.opening, p.content, p.closing, (passed ++ before).length + p.gap.length,
        line + p.gap.count '\n'⟩ : Element).contentEnd =
          (passed ++ before ++ p.gap ++ p.opening ++ p.content).length := by
      simp only [Element.contentEnd, Element.contentOffset, List.length_append]
    have hSplit : passed ++ before ++ assemble (p :: ps) tail =
        passed ++ (before ++ p.gap ++ p.opening) ++
          (p.content ++ p.closing ++ assemble ps tail) := by
      simp [assemble, Piece.text]
    rw [hStart, hStop, hRest]
    congr 1
    rw [hSplit, List.take_left, List.drop_left]

/-- The text around contents stays when the contents are revised. -/
theorem surroundings_revised (tag : Tag) (f : Element → Option Text) (ps : List Piece)
    (tail : Text) :
    surroundings (assemble (revised f tag 0 1 ps) tail) 0
        (locate tag 0 1 (revised f tag 0 1 ps)) =
      surroundings (assemble ps tail) 0 (locate tag 0 1 ps) := by
  have hNew := surroundings_locate tag tail (revised f tag 0 1 ps) [] [] 1
  have hOld := surroundings_locate tag tail ps [] [] 1
  rw [framed_revised] at hNew
  exact hNew.trans hOld.symm

-- ---------------------------------------------------------------------------
-- Updates in any order
-- ---------------------------------------------------------------------------

/-- The new content that updates give to an element. -/
def given? (updates : List (Element × Text)) (e : Element) : Option Text := updates.lookup e

/-- In updates for different elements the one for an element is found. -/
theorem given?_eq_some_iff {updates : List (Element × Text)}
    (hDistinct : (updates.map Prod.fst).Nodup) {e : Element} {new : Text} :
    given? updates e = some new ↔ (e, new) ∈ updates := by
  rw [given?]
  induction updates with
  | nil => simp
  | cons u updates ih =>
    obtain ⟨d, other⟩ := u
    rw [List.map_cons, List.nodup_cons] at hDistinct
    rw [List.lookup_cons, List.mem_cons]
    by_cases he : e = d
    · subst he
      have hOnce : (e, new) ∉ updates := fun hMem =>
        hDistinct.1 (List.mem_map.mpr ⟨_, hMem, rfl⟩)
      simp [hOnce, eq_comm]
    · rw [beq_false_of_ne he, ih hDistinct.2]
      simp [he]

theorem mem_updatesOf {f : Element → Option Text} {es : List Element} {e : Element} {new : Text} :
    (e, new) ∈ updatesOf f es ↔ e ∈ es ∧ f e = some new := by
  rw [updatesOf, List.mem_filterMap]
  constructor
  · rintro ⟨d, hd, hUpdate⟩
    obtain ⟨w, hw, hPair⟩ := Option.map_eq_some_iff.mp hUpdate
    obtain ⟨rfl, rfl⟩ := Prod.mk.inj hPair
    exact ⟨hd, hw⟩
  · rintro ⟨he, hNew⟩
    exact ⟨e, he, by rw [hNew, Option.map_some]⟩

/-- Updates for different elements of a page are a choice of new contents, shuffled. -/
theorem perm_updatesOf_given {page : Text} {updates : List (Element × Text)}
    (hDistinct : (updates.map Prod.fst).Nodup)
    (hFound : ∀ u ∈ updates, u.1 ∈ elements tag page) :
    updates.Perm (updatesOf (given? updates) (elements tag page)) := by
  have hAscending := updatesOf_ascending (f := given? updates) (elements_ascending tag page)
  have hNodup : (updatesOf (given? updates) (elements tag page)).Nodup := by
    refine hAscending.imp ?_
    rintro u _ hLess rfl
    exact Nat.lt_irrefl _ hLess
  refine (List.perm_ext_iff_of_nodup (List.Nodup.of_map _ hDistinct) hNodup).mpr ?_
  rintro ⟨e, new⟩
  rw [mem_updatesOf, given?_eq_some_iff hDistinct]
  exact ⟨fun h => ⟨hFound _ h, h⟩, fun h => h.2⟩

-- ---------------------------------------------------------------------------
-- The page with new contents
-- ---------------------------------------------------------------------------

/-- **New contents**: when the contents of different elements of a page are exchanged,
in whatever order they are given, for texts that hold no closing tag, then the page
has the same elements with the same opening tags in the same order, and so with the same
attributes, however these are read. Their contents are the new ones where there is one and
the old ones elsewhere, and the text before, between and behind the contents is what it
was. -/
theorem elements_replaceContents {page : Text} {updates : List (Element × Text)}
    (hDistinct : (updates.map Prod.fst).Nodup)
    (hFound : ∀ u ∈ updates, u.1 ∈ elements tag page)
    (hClear : ∀ u ∈ updates, IsContent tag u.2) :
    List.Forall₂ (IsRevised read (given? updates)) (elements tag page)
        (elements tag (replaceContents updates page)) ∧
      surroundings (replaceContents updates page) 0
          (elements tag (replaceContents updates page)) =
        surroundings page 0 (elements tag page) := by
  have hPerm := perm_updatesOf_given hDistinct hFound
  have hNew : ∀ e ∈ elements tag page, ∀ new, given? updates e = some new →
      IsContent tag new := fun e _ new hGiven =>
    hClear (e, new) ((given?_eq_some_iff hDistinct).mp hGiven)
  have hElements : elements tag (replaceContents updates page) =
      locate tag 0 1 (revised (given? updates) tag 0 1 (dissect tag page).1) := by
    rw [elements, dissect_replaceContents hPerm hNew]
  have hAround := surroundings_revised tag (given? updates) (dissect tag page).1
    (dissect tag page).2
  rw [assemble_dissect, ← replaceContents_eq hPerm, ← hElements] at hAround
  refine ⟨?_, hAround⟩
  rw [hElements]
  exact locate_revised read _ _ 0 1 0 1

/-- A script that is loaded, and one that stands in the page in capitals. -/
def loadedThenInline : List Piece :=
  [⟨"<p>".toList, "<script src=a.js>".toList, [], "</script>".toList⟩,
    ⟨"\n".toList, "<SCRIPT>".toList, "f()".toList, "</Script>".toList⟩]

theorem dissect_loadedThenInline :
    dissect .script (assemble loadedThenInline []) = (loadedThenInline, []) := by
  refine dissect_assemble ?_ ?_
  · intro p hp
    rcases List.mem_pair.mp hp with rfl | rfl
    · exact ⟨by decide, ⟨"<script".toList, " src=a.js".toList, rfl, by decide, by decide⟩,
        by decide, by decide⟩
    · exact ⟨by decide, ⟨"<SCRIPT".toList, [], rfl, by decide, by decide⟩, by decide, by decide⟩
  · intro s hs
    rw [List.suffix_nil.mp hs]
    rfl

/-- The second script is updated first; what the first one is given looks like markup,
but closes nothing. -/
def secondThenFirst : List (Element × Text) :=
  [(⟨.script, "<SCRIPT>".toList, "f()".toList, "</Script>".toList, 30, 2⟩, "g();".toList),
    (⟨.script, "<script src=a.js>".toList, [], "</script>".toList, 3, 1⟩, "<p></script".toList)]

theorem elements_replaceContents_secondThenFirst :
    (secondThenFirst.map Prod.fst).Nodup ∧
      (∀ u ∈ secondThenFirst, u.1 ∈ elements .script (assemble loadedThenInline [])) ∧
      (∀ u ∈ secondThenFirst, IsContent .script u.2) ∧
      List.Forall₂ (IsRevised attributes (given? secondThenFirst))
        (elements .script (assemble loadedThenInline []))
        (elements .script (replaceContents secondThenFirst (assemble loadedThenInline []))) ∧
      surroundings (replaceContents secondThenFirst (assemble loadedThenInline [])) 0
          (elements .script (replaceContents secondThenFirst (assemble loadedThenInline []))) =
        surroundings (assemble loadedThenInline []) 0
          (elements .script (assemble loadedThenInline [])) := by
  have hDistinct : (secondThenFirst.map Prod.fst).Nodup := by decide
  have hFound : ∀ u ∈ secondThenFirst,
      u.1 ∈ elements .script (assemble loadedThenInline []) := by
    rw [elements, dissect_loadedThenInline]
    decide
  have hClear : ∀ u ∈ secondThenFirst, IsContent .script u.2 := by decide
  exact ⟨hDistinct, hFound, hClear, elements_replaceContents attributes hDistinct hFound hClear⟩

end Document

end SketchRepair
