import SketchRepair.Proofs.Document.Surroundings
import SketchRepair.Proofs.Text.FirstOccurrence

/-!
# SketchRepair — elements that give way to others

An element gives way to a new text in its own place when what stands before it and
behind it is kept. The place is an offset of the page as it was; it moves along when
elements before it have given way. A text that is searched for instead of the place may
be found further in front, at the end of a script that quotes it, or in a text that has
been put in before.

* `exchanged_append` — the page before an element, and behind it;
* `inPlace_nil` — a page in which nothing gives way;
* `IsWhole.eq_of_prefix` — no element begins another one;
* `replaceFirst_inPlace_iff` — when an element is found in its own place;
* `Exchangeable.inTurn_concat_iff`, `Exchangeable.inTurn_eq_inPlace` — several elements, one
  after the other.
-/

namespace SketchRepair

namespace Document

variable {tag : Tag} {f g : Element → Option Text} {page t new : Text} {e : Element}
  {es before behind : List Element} {start stop : Nat} {updates done later : List (Element × Text)}
  {u : Element × Text}

-- ---------------------------------------------------------------------------
-- New texts in the places of elements
-- ---------------------------------------------------------------------------

/-- The text of a page between two offsets, where the elements given have the texts that
`f` has for them, if any, and everything else is kept. -/
def exchanged (f : Element → Option Text) (page : Text) : (start stop : Nat) →
    List Element → Text
  | start, stop, [] => Text.between (start, stop) page
  | start, stop, e :: es =>
    Text.between (start, e.offset) page ++ (f e).getD e.text ++
      exchanged f page e.endOffset stop es

/-- The page in which some of its elements have given way to new texts. -/
def inPlace (tag : Tag) (updates : List (Element × Text)) (page : Text) : Text :=
  exchanged (given? updates) page 0 page.length (elements tag page)

/-- Where an element begins in the page in which others have given way. -/
def placeOf (tag : Tag) (updates : List (Element × Text)) (page : Text) (e : Element) : Nat :=
  (exchanged (given? updates) page 0 e.offset ((elements tag page).takeWhile (· ≠ e))).length

/-- The text of the element stands nowhere before the element itself, in the page in which
others have given way. -/
def StandsFirst (tag : Tag) (updates : List (Element × Text)) (page : Text) (e : Element) : Prop :=
  ∀ a b, inPlace tag updates page = a ++ e.text ++ b → placeOf tag updates page e ≤ a.length

/-- What stands before an element, what it gives way to, and what stands behind it. -/
theorem exchanged_append (before : List Element) : ∀ start,
    exchanged f page start stop (before ++ e :: behind) =
      exchanged f page start e.offset before ++ (f e).getD e.text ++
        exchanged f page e.endOffset stop behind := by
  induction before with
  | nil =>
    intro start
    rfl
  | cons d before ih =>
    intro start
    rw [List.cons_append, exchanged, exchanged, ih]
    simp only [List.append_assoc]

theorem exchanged_congr (h : ∀ e ∈ es, f e = g e) : ∀ start,
    exchanged f page start stop es = exchanged g page start stop es := by
  induction es with
  | nil =>
    intro start
    rfl
  | cons e es ih =>
    intro start
    obtain ⟨hHere, hLater⟩ := List.forall_mem_cons.mp h
    rw [exchanged, exchanged, hHere, ih hLater]

theorem between_append (a b c : Text) :
    Text.between (a.length, (a ++ b).length) (a ++ b ++ c) = b := by
  rw [Text.between, List.take_left, List.drop_left]

/-- Pieces in which nothing gives way, behind a text `passed`. -/
theorem exchanged_locate (tag : Tag) (tail : Text) (ps : List Piece) :
    ∀ (passed : Text) (line : Nat),
      exchanged (fun _ => none) (passed ++ assemble ps tail) passed.length
          (passed ++ assemble ps tail).length (locate tag passed.length line ps) =
        assemble ps tail := by
  induction ps with
  | nil =>
    intro passed line
    have hTail := between_append passed tail []
    rwa [List.append_nil] at hTail
  | cons p ps ih =>
    intro passed line
    have hRest := ih (passed ++ p.text) (line + p.text.count '\n')
    have hPage : passed ++ p.text ++ assemble ps tail = passed ++ assemble (p :: ps) tail := by
      simp [assemble]
    rw [hPage] at hRest
    have hGap : Text.between (passed.length, passed.length + p.gap.length)
        (passed ++ assemble (p :: ps) tail) = p.gap := by
      have hText : passed ++ assemble (p :: ps) tail =
          passed ++ p.gap ++ (p.opening ++ p.content ++ p.closing ++ assemble ps tail) := by
        simp [assemble, Piece.text]
      rw [hText, ← List.length_append, between_append]
    have hEnd : (⟨tag, p.opening, p.content, p.closing, passed.length + p.gap.length,
        line + p.gap.count '\n'⟩ : Element).endOffset = (passed ++ p.text).length := by
      simp only [Element.endOffset, Element.text, Piece.text, List.length_append]
      omega
    have hLength : passed.length + p.text.length = (passed ++ p.text).length :=
      List.length_append.symm
    rw [locate, exchanged, hGap, hEnd, hLength, hRest]
    simp [assemble, Piece.text, Element.text]

/-- A page in which nothing gives way is kept. -/
theorem inPlace_nil (tag : Tag) (page : Text) : inPlace tag [] page = page := by
  have hLocate := exchanged_locate tag (dissect tag page).2 (dissect tag page).1 [] 1
  rw [List.nil_append, assemble_dissect] at hLocate
  exact hLocate

-- ---------------------------------------------------------------------------
-- Whole elements
-- ---------------------------------------------------------------------------

/-- The text is an element and nothing else. -/
def IsWhole (tag : Tag) (t : Text) : Prop :=
  ∃ opening content closing, element? tag t = some (opening, content, closing, [])

/-- No element begins another one. -/
theorem IsWhole.eq_of_prefix {t' : Text} (ht : IsWhole tag t) (ht' : IsWhole tag t')
    (h : t <+: t') : t = t' := by
  obtain ⟨o, c, d, ht⟩ := ht
  obtain ⟨o', c', d', ht'⟩ := ht'
  obtain ⟨rest, rfl⟩ := h
  obtain ⟨hOpening, hContent, hClosing, hText⟩ := element?_eq_some_iff.mp ht
  have hAgain : element? tag (t ++ rest) = some (o, c, d, rest) :=
    element?_eq_some_iff.mpr ⟨hOpening, hContent, hClosing, by simp [hText]⟩
  obtain ⟨-, -, -, rfl⟩ : o = o' ∧ c = c' ∧ d = d' ∧ rest = [] := by
    rw [hAgain] at ht'
    simpa using ht'
  rw [List.append_nil]

theorem isWhole_of_mem_elements (he : e ∈ elements tag page) : IsWhole tag e.text := by
  obtain ⟨p, hp, hOpening, hContent, hClosing⟩ := exists_piece_of_mem_locate he
  have hPiece := (dissect_isElement tag page).1 p hp
  refine ⟨p.opening, p.content, p.closing, element?_eq_some_iff.mpr
    ⟨hPiece.opening, hPiece.content, hPiece.closing, ?_⟩⟩
  rw [Element.text, hOpening, hContent, hClosing, List.append_nil]

-- ---------------------------------------------------------------------------
-- One more element
-- ---------------------------------------------------------------------------

theorem given?_eq_none (hFresh : e ∉ updates.map Prod.fst) : given? updates e = none := by
  rw [given?, List.lookup_eq_none_iff]
  rintro ⟨d, other⟩ hMem
  rw [bne_iff_ne]
  rintro rfl
  exact hFresh (List.mem_map.mpr ⟨_, hMem, rfl⟩)

/-- One more update does not matter to another element. -/
theorem given?_concat_of_ne {d : Element} (h : d ≠ e) :
    given? (updates ++ [(e, new)]) d = given? updates d := by
  rw [given?, List.lookup_append, List.lookup_cons, beq_false_of_ne h, given?]
  simp

theorem given?_concat_self (hFresh : e ∉ updates.map Prod.fst) :
    given? (updates ++ [(e, new)]) e = some new := by
  rw [given?, List.lookup_append, show updates.lookup e = none from given?_eq_none hFresh]
  simp

/-- Where one more element gives way, everything else is as it was. -/
theorem inPlace_concat (new : Text) (hFresh : e ∉ updates.map Prod.fst)
    (hSplit : elements tag page = before ++ e :: behind) :
    inPlace tag updates page = exchanged (given? updates) page 0 e.offset before ++ e.text ++
        exchanged (given? updates) page e.endOffset page.length behind ∧
      inPlace tag (updates ++ [(e, new)]) page =
        exchanged (given? updates) page 0 e.offset before ++ new ++
          exchanged (given? updates) page e.endOffset page.length behind := by
  have hOnce := nodup_elements tag page
  rw [hSplit, List.nodup_middle, List.nodup_cons, List.mem_append, not_or] at hOnce
  have hKeep {es : List Element} (he : e ∉ es) : ∀ d ∈ es,
      given? (updates ++ [(e, new)]) d = given? updates d := by
    intro d hd
    refine given?_concat_of_ne ?_
    rintro rfl
    exact he hd
  constructor
  · rw [inPlace, hSplit, exchanged_append, given?_eq_none hFresh, Option.getD_none]
  · rw [inPlace, hSplit, exchanged_append, given?_concat_self hFresh, Option.getD_some,
      exchanged_congr (hKeep hOnce.1.1), exchanged_congr (hKeep hOnce.1.2)]

/-- The text of an element gives way in its own place exactly if it stands nowhere before
that. -/
theorem replaceFirst_inPlace_iff (he : e ∈ elements tag page)
    (hFresh : e ∉ updates.map Prod.fst) (hNew : IsWhole tag new) (hOther : new ≠ e.text) :
    Text.replaceFirst e.text new (inPlace tag updates page) =
      inPlace tag (updates ++ [(e, new)]) page ↔ StandsFirst tag updates page e := by
  obtain ⟨before, behind, hSplit⟩ := List.append_of_mem he
  obtain ⟨hPage, hNext⟩ := inPlace_concat new hFresh hSplit
  have hOwn := isWhole_of_mem_elements he
  have hPlace : placeOf tag updates page e =
      (exchanged (given? updates) page 0 e.offset before).length := by
    have hOnce := nodup_elements tag page
    rw [hSplit, List.nodup_middle, List.nodup_cons, List.mem_append, not_or] at hOnce
    have hBefore : ∀ d ∈ before, decide (d ≠ e) = true := by
      rintro d hd
      rw [decide_eq_true_eq]
      rintro rfl
      exact hOnce.1.1 hd
    rw [placeOf, hSplit, List.takeWhile_append_of_pos hBefore,
      List.takeWhile_cons_of_neg (by simp), List.append_nil]
  rw [StandsFirst, hPlace, hPage, hNext,
    Text.replaceFirst_eq_iff (fun h => hOther (hOwn.eq_of_prefix hNew h).symm)
      fun h => hOther (hNew.eq_of_prefix hOwn h)]

-- ---------------------------------------------------------------------------
-- One element after the other
-- ---------------------------------------------------------------------------

/-- Texts of elements replaced one after the other, each where it stands first. -/
def inTurn (page : Text) (updates : List (Element × Text)) : Text :=
  updates.foldl (fun page u => Text.replaceFirst u.1.text u.2 page) page

theorem inTurn_concat : inTurn page (done ++ [u]) =
    Text.replaceFirst u.1.text u.2 (inTurn page done) := by
  rw [inTurn, List.foldl_append]
  rfl

/-- New texts for different elements of a page: elements again, and other ones. -/
structure Exchangeable (tag : Tag) (page : Text) (updates : List (Element × Text)) : Prop where
  distinct : (updates.map Prod.fst).Nodup
  found : ∀ u ∈ updates, u.1 ∈ elements tag page
  whole : ∀ u ∈ updates, IsWhole tag u.2
  other : ∀ u ∈ updates, u.2 ≠ u.1.text

/-- While every element has given way in its own place, the next one does so exactly if its
text stands nowhere before it. -/
theorem Exchangeable.inTurn_concat_iff (h : Exchangeable tag page (done ++ u :: later))
    (hDone : inTurn page done = inPlace tag done page) :
    inTurn page (done ++ [u]) = inPlace tag (done ++ [u]) page ↔
      StandsFirst tag done page u.1 := by
  have hMem : u ∈ done ++ u :: later := by simp
  have hFresh : u.1 ∉ done.map Prod.fst := by
    have hDistinct := h.distinct
    rw [List.map_append, List.map_cons, List.nodup_middle, List.nodup_cons, List.mem_append,
      not_or] at hDistinct
    exact hDistinct.1.1
  rw [inTurn_concat, hDone]
  exact replaceFirst_inPlace_iff (h.found u hMem) hFresh (h.whole u hMem) (h.other u hMem)

/-- All elements give way in their own places if each one's text stands nowhere before it
when its turn comes. -/
theorem Exchangeable.inTurn_eq_inPlace (h : Exchangeable tag page updates)
    (hFirst : ∀ done u later, updates = done ++ u :: later → StandsFirst tag done page u.1) :
    inTurn page updates = inPlace tag updates page := by
  suffices hBegin : ∀ done later, updates = done ++ later →
      inTurn page done = inPlace tag done page from
    hBegin updates [] (List.append_nil _).symm
  intro done
  induction done using List.reverseRecOn with
  | nil =>
    intro later _
    exact (inPlace_nil tag page).symm
  | append_singleton done u ih =>
    intro later hSplit
    rw [List.append_assoc, List.singleton_append] at hSplit
    rw [hSplit] at h
    exact (h.inTurn_concat_iff (ih _ hSplit)).mpr (hFirst done u later hSplit)

end Document

end SketchRepair
