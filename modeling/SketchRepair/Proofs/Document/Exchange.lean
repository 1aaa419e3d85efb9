import SketchRepair.Proofs.Document.Surroundings

/-!
# SketchRepair — a new content is there to be seen

A page with new contents for some of its elements could be the same page after all:
what one content gains, another one might lose. It is not. A content cannot end
earlier, because its closing tag would begin inside the old one; and it cannot end
later, because everything behind it would have to stand further back in the same page,
and the last closing tag that is not part of a content stands in one place only. So a
page stays as it is only if every new content is the old one.

* `eq_nil_of_recurrence` — a text does not come again a little further back;
* `eq_nil_of_shifted` — pieces behind a closing tag do not move;
* `assemble_eq_iff` — pieces that differ in their contents make up different pages;
* `replaceContents_eq_self_iff` — a page with new contents is another page;
* `length_replaceContents` — and with longer ones it is longer.
-/

namespace SketchRepair

namespace Document

-- ---------------------------------------------------------------------------
-- The last occurrence
-- ---------------------------------------------------------------------------

section Occurrence

variable {k m c x : Text}

/-- Of the places where a text occurs there is a last one. -/
theorem exists_last_occurrence (h : k <:+: m) :
    ∃ a u, m = a ++ u ∧ k <+: u ∧ ∀ s, s <:+ u → k <+: s → s = u := by
  induction m with
  | nil =>
    refine ⟨[], [], rfl, (List.infix_nil.mp h) ▸ List.nil_prefix, ?_⟩
    intro s hs _
    exact List.suffix_nil.mp hs
  | cons y m ih =>
    by_cases hLater : k <:+: m
    · obtain ⟨a, u, rfl, hu, hLast⟩ := ih hLater
      exact ⟨y :: a, u, rfl, hu, hLast⟩
    · have hHere := (List.infix_cons_iff.mp h).resolve_right hLater
      refine ⟨[], y :: m, rfl, hHere, ?_⟩
      intro s hs hk
      rcases List.suffix_cons_iff.mp hs with rfl | hs'
      · rfl
      · exact absurd (hk.isInfix.trans hs'.isInfix) hLater

/-- Nothing can be put before a text that ends with `q`, so that what results begins
like the text did, if a pattern with its only `q` at its end occurs in it and not in
what follows. -/
theorem eq_nil_of_recurrence {q : Char} {k₀ : Text} (hPattern : k = k₀ ++ [q]) (hq : q ∉ k₀)
    (hEnd : m.getLast? = some q) (hIn : k <:+: m) (hOut : ¬ k <:+: c)
    (h : x ++ m <+: m ++ c) : x = [] := by
  obtain ⟨a, u, rfl, hu, hLast⟩ := exists_last_occurrence hIn
  obtain ⟨v, hv⟩ := h
  -- the last occurrence has moved back by the length of `x`
  have hMoved : u ++ v <:+ u ++ c := by
    have hWhole : u ++ v <:+ a ++ (u ++ c) := ⟨x ++ a, by simpa using hv⟩
    refine List.suffix_of_suffix_length_le hWhole (List.suffix_append a _) ?_
    have hLength := congrArg List.length hv
    simp only [List.length_append] at hLength ⊢
    omega
  obtain ⟨w, hw⟩ := hMoved
  have hLength : w.length = x.length := by
    have h₁ := congrArg List.length hv
    have h₂ := congrArg List.length hw
    simp only [List.length_append] at h₁ h₂
    omega
  have hPrefix : k <+: u ++ v := List.prefix_append_of_prefix hu
  rcases List.append_eq_append_iff.mp hw with ⟨s, hs, hRest⟩ | ⟨s, hs, hRest⟩
  · -- it begins in `u`
    rw [hRest] at hPrefix
    have hSuffix : s <:+ u := ⟨w, hs.symm⟩
    have hSame : s = u → x = [] := by
      rintro rfl
      have := congrArg List.length hs
      rw [List.length_append] at this
      exact List.length_eq_zero_iff.mp (by omega)
    rcases Text.prefix_append_iff.mp hPrefix with hWithin | ⟨r, hr, hk⟩
    · exact hSame (hLast s hSuffix hWithin)
    · rcases List.eq_nil_or_concat r with rfl | ⟨r, y, rfl⟩
      · rw [List.append_nil] at hk
        exact hSame (hLast s hSuffix (hk ▸ List.prefix_refl _))
      · rcases List.eq_nil_or_concat s with rfl | ⟨s, z, rfl⟩
        · rw [List.nil_append] at hk
          exact absurd (hk ▸ hr.isInfix) hOut
        · -- the pattern would hold `q` before its end
          obtain ⟨b, hb⟩ := hSuffix
          rw [← hb, List.concat_eq_append, ← List.append_assoc, ← List.append_assoc,
            List.getLast?_concat, Option.some.injEq] at hEnd
          rw [hPattern, List.concat_eq_append, List.concat_eq_append, ← List.append_assoc] at hk
          have hFront := (List.append_inj' hk rfl).1
          exact absurd (by rw [hFront, hEnd]; simp) hq
  · exact absurd (hRest ▸ hPrefix.isInfix.trans (List.suffix_append s _).isInfix) hOut

end Occurrence

-- ---------------------------------------------------------------------------
-- Pieces
-- ---------------------------------------------------------------------------

variable {tag : Tag} {ps qs : List Piece} {tail : Text}

/-- A closing tag ends with its only `>`. -/
theorem Tag.closer_eq_concat (tag : Tag) : tag.closer = ('<' :: '/' :: tag.name) ++ ['>'] := rfl

theorem Tag.gt_not_mem (tag : Tag) : '>' ∉ '<' :: '/' :: tag.name := by
  cases tag <;> decide

/-- Pieces that differ in their contents at most. -/
structure SameFrame (p q : Piece) : Prop where
  gap : q.gap = p.gap
  opening : q.opening = p.opening
  closing : q.closing = p.closing

/-- A text that is not empty does not come between a closing tag and itself, if pieces
with other contents are all that differs behind it. -/
theorem eq_nil_of_shifted (hFrame : List.Forall₂ SameFrame ps qs)
    (hPieces : ∀ p ∈ ps, p.IsElement tag) :
    ∀ {d x : Text}, IsClosing tag d →
      d ++ assemble ps tail = x ++ (d ++ assemble qs tail) → x = [] := by
  induction hFrame with
  | nil =>
    intro d x _ h
    have hLength := congrArg List.length h
    simp only [List.length_append] at hLength
    exact List.length_eq_zero_iff.mp (by omega)
  | @cons p q ps qs hpq _ ih =>
    intro d x hd h
    obtain ⟨hHere, hRest⟩ := List.forall_mem_cons.mp hPieces
    obtain ⟨a, inner, hOpening, -, -⟩ := hHere.opening
    -- everything up to the content
    generalize hm : d ++ p.gap ++ p.opening = m
    have hText : m ++ p.content ++ (p.closing ++ assemble ps tail) =
        x ++ m ++ (q.content ++ (p.closing ++ assemble qs tail)) := by
      rw [← hm]
      simpa [assemble, Piece.text, hpq.gap, hpq.opening, hpq.closing] using h
    have hEnd : (m.map fold).getLast? = some '>' := by
      rw [← hm, hOpening, ← List.append_assoc, List.map_append]
      exact List.getLast?_concat
    have hIn : tag.closer <:+: m.map fold := by
      rw [← hm, List.append_assoc, List.map_append, hd]
      exact (List.prefix_append _ _).isInfix
    have hStop (hBegins : x ++ m <+: m ++ p.content) : x = [] := by
      have hFolded := hBegins.map fold
      rw [List.map_append, List.map_append] at hFolded
      exact List.map_eq_nil_iff.mp (eq_nil_of_recurrence tag.closer_eq_concat
        tag.gt_not_mem hEnd hIn hHere.content hFolded)
    have hPage : x ++ m <+: m ++ p.content ++ (p.closing ++ assemble ps tail) := ⟨_, hText.symm⟩
    rcases List.prefix_or_prefix_of_prefix hPage (List.prefix_append _ _) with hBefore | ⟨y, hy⟩
    · exact hStop hBefore
    · -- then the next closing tag would come again further back
      rw [← hy, List.append_assoc (m ++ p.content), List.append_cancel_left_eq,
        ← List.append_assoc] at hText
      have hNil := (List.append_eq_nil_iff.mp (ih hRest hHere.closing hText)).1
      rw [hNil, List.append_nil] at hy
      exact hStop (hy ▸ List.prefix_refl _)

/-- Pieces that differ in their contents make up different pages. -/
theorem assemble_eq_iff (hFrame : List.Forall₂ SameFrame ps qs)
    (hPieces : ∀ p ∈ ps, p.IsElement tag) : assemble qs tail = assemble ps tail ↔ qs = ps := by
  constructor
  · induction hFrame with
    | nil => exact fun _ => rfl
    | @cons p q ps qs hpq hFrame ih =>
      intro h
      obtain ⟨hHere, hRest⟩ := List.forall_mem_cons.mp hPieces
      have hText : q.content ++ (p.closing ++ assemble qs tail) =
          p.content ++ (p.closing ++ assemble ps tail) := by
        simpa [assemble, Piece.text, hpq.gap, hpq.opening, hpq.closing] using h
      have hContent : q.content = p.content := by
        rcases List.append_eq_append_iff.mp hText with ⟨x, hx, hBehind⟩ | ⟨x, hx, hBehind⟩
        · -- the new content is shorter: the closing tag begins inside the old one
          by_contra hOther
          have hne : x ≠ [] := by
            rintro rfl
            exact hOther (by rw [hx, List.append_nil])
          have hInside : ¬ tag.closer <+: x.map fold := by
            intro hPrefix
            refine hHere.content ?_
            rw [hx, List.map_append]
            exact hPrefix.isInfix.trans (List.suffix_append _ _).isInfix
          rw [tag.closer_eq] at hInside
          have hFolded := congrArg (List.map fold) hBehind
          rw [List.map_append, List.map_append, List.map_append, hHere.closing,
            tag.closer_eq] at hFolded
          exact Text.not_prefix_over_seam tag.lt_not_mem_closer_tail (by simpa using hne) hInside
            ⟨_, hFolded⟩
        · rw [hx, eq_nil_of_shifted hFrame hRest hHere.closing hBehind, List.append_nil]
      have hSame : q = p := by
        obtain ⟨gap, opening, content, closing⟩ := q
        rw [Piece.mk.injEq]
        exact ⟨hpq.gap, hpq.opening, hContent, hpq.closing⟩
      rw [hContent, List.append_cancel_left_eq, List.append_cancel_left_eq] at hText
      rw [hSame, ih hRest hText]
  · rintro rfl
    rfl

-- ---------------------------------------------------------------------------
-- Elements
-- ---------------------------------------------------------------------------

theorem sameFrame_revised (tag : Tag) (f : Element → Option Text) (ps : List Piece) :
    ∀ (offset line : Nat), List.Forall₂ SameFrame ps (revised f tag offset line ps) := by
  induction ps with
  | nil => exact fun _ _ => .nil
  | cons p ps ih =>
    intro offset line
    obtain ⟨e, -, -, hRevised⟩ := revised_cons tag f offset line p ps
    rw [hRevised]
    exact .cons ⟨rfl, rfl, rfl⟩ (ih _ _)

/-- Pieces stay as they are if every new content is the old one. -/
theorem revised_eq_self_iff (tag : Tag) (f : Element → Option Text) (ps : List Piece) :
    ∀ (offset line : Nat), revised f tag offset line ps = ps ↔
      ∀ e ∈ locate tag offset line ps, ∀ new, f e = some new → new = e.content := by
  induction ps with
  | nil =>
    intro offset line
    simp [revised, locate]
  | cons p ps ih =>
    intro offset line
    obtain ⟨e, hLocate, he, hRevised⟩ := revised_cons tag f offset line p ps
    have hContent : e.content = p.content := by rw [he]
    rw [hRevised, hLocate, List.cons.injEq, ih, List.forall_mem_cons, hContent]
    refine and_congr ?_ Iff.rfl
    cases f e with
    | none => simp
    | some new =>
      constructor
      · intro hSame other hOther
        rw [← Option.some.inj hOther]
        exact congrArg Piece.content hSame
      · intro hAll
        rw [Option.getD_some, hAll new rfl]

/-- **New contents show**: a page in which the contents of different elements are
exchanged stays as it is only if every new content is the old one. -/
theorem replaceContents_eq_self_iff {page : Text} {updates : List (Element × Text)}
    (hDistinct : (updates.map Prod.fst).Nodup)
    (hFound : ∀ u ∈ updates, u.1 ∈ elements tag page) :
    replaceContents updates page = page ↔ ∀ u ∈ updates, u.2 = u.1.content := by
  have hPage := assemble_dissect tag page
  have hNew := replaceContents_eq (perm_updatesOf_given hDistinct hFound)
  rw [hNew]
  constructor
  · intro h
    have hSame := (assemble_eq_iff (sameFrame_revised tag _ _ 0 1)
      (dissect_isElement tag page).1).mp (h.trans hPage.symm)
    rintro ⟨e, new⟩ hu
    exact (revised_eq_self_iff tag _ _ 0 1).mp hSame e (hFound _ hu) new
      ((given?_eq_some_iff hDistinct).mpr hu)
  · intro h
    have hSame := (revised_eq_self_iff tag (given? updates) (dissect tag page).1 0 1).mpr
      fun e _ new hGiven => h (e, new) ((given?_eq_some_iff hDistinct).mp hGiven)
    rw [hSame, hPage]

/-- Pieces with longer contents make up a longer page. -/
theorem length_revised (tag : Tag) {f : Element → Option Text} (tail : Text) (ps : List Piece) :
    ∀ (offset line : Nat), (∀ e ∈ locate tag offset line ps, ∀ new, f e = some new →
        e.content.length < new.length) →
      (assemble ps tail).length + (updatesOf f (locate tag offset line ps)).length ≤
        (assemble (revised f tag offset line ps) tail).length := by
  induction ps with
  | nil =>
    intro offset line _
    simp [locate, updatesOf, revised]
  | cons p ps ih =>
    intro offset line hLonger
    obtain ⟨e, hLocate, he, hRevised⟩ := revised_cons tag f offset line p ps
    rw [hLocate] at hLonger
    obtain ⟨hHere, hLater⟩ := List.forall_mem_cons.mp hLonger
    have hRest := ih _ _ hLater
    have hContent : e.content = p.content := by rw [he]
    rw [hLocate, hRevised, updatesOf, List.filterMap_cons]
    unfold updatesOf at hRest
    cases hf : f e with
    | none =>
      simp only [assemble, List.flatMap_cons, List.length_append, Option.map_none,
        Option.getD_none, Piece.text] at hRest ⊢
      omega
    | some new =>
      have hNew := hHere new hf
      rw [hContent] at hNew
      simp only [assemble, List.flatMap_cons, List.length_append, Option.map_some,
        Option.getD_some, List.length_cons, Piece.text] at hRest ⊢
      omega

theorem length_replaceContents {page : Text} {updates : List (Element × Text)}
    (hDistinct : (updates.map Prod.fst).Nodup)
    (hFound : ∀ u ∈ updates, u.1 ∈ elements tag page)
    (hLonger : ∀ u ∈ updates, u.1.content.length < u.2.length) :
    page.length + updates.length ≤ (replaceContents updates page).length := by
  have hPerm := perm_updatesOf_given hDistinct hFound
  have hRevised := length_revised tag (dissect tag page).2 (dissect tag page).1 0 1
    fun e _ new hGiven => hLonger (e, new) ((given?_eq_some_iff hDistinct).mp hGiven)
  rw [assemble_dissect, ← replaceContents_eq hPerm] at hRevised
  rw [hPerm.length_eq]
  exact hRevised

end Document

end SketchRepair
