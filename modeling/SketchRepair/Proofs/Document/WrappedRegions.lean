import SketchRepair.Proofs.Document.InPlace
import SketchRepair.Proofs.Document.Region
import SketchRepair.Proofs.Text.Places

/-!
# SketchRepair — where bare rules are wrapped

Every wrapping changes the page that is searched next. Because a region keeps out of the
style elements that were put in already, it stands in the first page as well: between two
earlier regions, before all of them or behind. So what comes out is the first page with some
of its regions wrapped where they stand, and nothing else.

Rules that stand alone are taken out instead, and put before a mark of the page without
them.

* `Wrapped` — a page, and what it is with some regions wrapped;
* `Wrapped.insert` — one more of them;
* `Wrapped.exists_places` — where they are in the page as it was;
* `Moved` — where rules that stood alone are put;
* `wrapBareStyle_keeps_text` — **wrapping loses no text, and duplicates none**.
-/

namespace SketchRepair

namespace Document

variable {before css behind gap page passed wrapped x y : Text} {n : Nat}

-- ---------------------------------------------------------------------------
-- Regions in their places
-- ---------------------------------------------------------------------------

/-- A page behind a text that was passed, and what it is with so many of its regions
wrapped. -/
inductive Wrapped : (passed page wrapped : Text) → Nat → Prop where
  | nil {passed tail : Text} : Wrapped passed tail tail 0
  | cons {passed gap css page wrapped : Text} {n : Nat} (hEnds : EndsTag (passed ++ gap))
      (hFree : TagFree css) (hLikely : Stylesheet.isLikely css = true)
      (hRest : Wrapped (passed ++ gap ++ styleElement css) page wrapped n) :
      Wrapped passed (gap ++ (css ++ page)) (gap ++ (styleElement css ++ wrapped)) (n + 1)

namespace Wrapped

/-- Of what was passed it matters only that it ends with a tag. -/
theorem congr (h : Wrapped x page wrapped n) (hy : EndsTag y) : Wrapped y page wrapped n := by
  induction h generalizing y with
  | nil => exact .nil
  | cons hEnds hFree hLikely _ ih =>
    exact .cons (hEnds.congr hy) hFree hLikely (ih (endsTag_styleElement ..))

/-- **One more region** is wrapped: between two that are wrapped already, before all of them
or behind. -/
theorem insert (h : Wrapped passed page wrapped n) (hRegion : Region (passed ++ gap) css behind)
    (hLikely : Stylesheet.isLikely css = true) (hText : wrapped = gap ++ (css ++ behind)) :
    Wrapped passed page (gap ++ (styleElement css ++ behind)) (n + 1) := by
  induction h generalizing gap with
  | nil =>
    subst hText
    exact .cons hRegion.endsTag hRegion.tagFree hLikely .nil
  | @cons passed front rules page wrapped n hEnds hFree hRules hRest ih =>
    have hPage : passed ++ front ++ (styleElement rules ++ wrapped) =
        passed ++ gap ++ (css ++ behind) := by
      rw [List.append_assoc, hText, List.append_assoc]
    rcases hRegion.before_or_behind hEnds hFree hPage with ⟨r, hBefore⟩ | ⟨r, hBehind⟩
    · -- it stands in the gap, which it cuts in two
      obtain rfl : front = gap ++ (css ++ r) := by simpa using hBefore
      obtain rfl : behind = r ++ (styleElement rules ++ wrapped) := by simpa using hText.symm
      have hLater : EndsTag (passed ++ gap ++ styleElement css ++ r) := by
        refine EndsTag.congr (x := passed ++ gap ++ css) ?_ (endsTag_styleElement ..)
        simpa using hEnds
      have hAll := Wrapped.cons hRegion.endsTag hRegion.tagFree hLikely
        (.cons hLater hFree hRules (hRest.congr (endsTag_styleElement ..)))
      simpa using hAll
    · obtain rfl : gap = front ++ (styleElement rules ++ r) := by simpa using hBehind
      have hRegion' : Region (passed ++ front ++ styleElement rules ++ r) css behind := by
        simpa using hRegion
      have hAll := Wrapped.cons hEnds hFree hRules (ih hRegion' (by simpa using hText))
      simpa using hAll

/-- Where the regions are in the page as it was. -/
theorem exists_places (h : Wrapped passed page wrapped n) : ∀ front : Text,
    ∃ places : List (Nat × Nat), places.length = n ∧ Text.Separate (front ++ page) places ∧
      (∀ p ∈ places, front.length ≤ p.1) ∧
      (∀ p ∈ places, Stylesheet.isLikely (Text.between p (front ++ page)) = true ∧
        TagFree (Text.between p (front ++ page))) ∧
      Text.exchanged (front ++ page) front.length (front ++ page).length
        (places.map fun p => (p, styleElement (Text.between p (front ++ page)))) = wrapped := by
  induction h with
  | @nil passed tail =>
    intro front
    refine ⟨[], rfl, Text.Separate.nil _, by simp, by simp, ?_⟩
    have hBetween := between_append front tail []
    rwa [List.append_nil] at hBetween
  | @cons passed gap css page wrapped n hEnds hFree hLikely hRest ih =>
    intro front
    obtain ⟨places, rfl, hSeparate, hBehind, hAll, rfl⟩ := ih (front ++ gap ++ css)
    have hPage : front ++ gap ++ css ++ page = front ++ (gap ++ (css ++ page)) := by simp
    have hGap : Text.between (front.length, (front ++ gap).length)
        (front ++ gap ++ css ++ page) = gap := by
      rw [List.append_assoc _ css, between_append]
    have hCss : Text.between ((front ++ gap).length, (front ++ gap ++ css).length)
        (front ++ gap ++ css ++ page) = css := between_append ..
    have hOpen : front.length ≤ (front ++ gap).length := by simp
    have hClose : (front ++ gap).length ≤ (front ++ gap ++ css).length := by simp
    rw [← hPage]
    refine ⟨((front ++ gap).length, (front ++ gap ++ css).length) :: places, rfl,
      hSeparate.cons hClose hBehind (by simp), ?_, ?_, ?_⟩
    · exact List.forall_mem_cons.mpr
        ⟨hOpen, fun p hp => (hOpen.trans hClose).trans (hBehind p hp)⟩
    · exact List.forall_mem_cons.mpr ⟨hCss.symm ▸ ⟨hLikely, hFree⟩, hAll⟩
    · rw [List.map_cons, Text.exchanged, hGap, hCss, List.append_assoc]

end Wrapped

/-- The regions wrapped up to the limit, behind those of earlier wrappings. -/
theorem wrapped_wrapRegions (limit : Nat) : ∀ {now : Text} {n : Nat}, Wrapped [] page now n →
    Wrapped [] page (wrapRegions limit now).1 (n + (wrapRegions limit now).2) ∧
      (wrapRegions limit now).2 ≤ limit := by
  induction limit with
  | zero => exact fun h => ⟨h, Nat.le_refl 0⟩
  | succ limit ih =>
    intro now n h
    rw [wrapRegions]
    split
    · exact ⟨h, Nat.zero_le _⟩
    · next before css behind hNext =>
      obtain ⟨hNow, hRegion, hLikely⟩ := region_of_nextRegion? hNext
      have hMore : Wrapped [] page (before ++ styleElement css ++ behind) (n + 1) := by
        rw [List.append_assoc]
        exact h.insert hRegion hLikely hNow
      obtain ⟨hAll, hLimit⟩ := ih hMore
      refine ⟨?_, Nat.succ_le_succ hLimit⟩
      rwa [Nat.add_assoc, Nat.add_comm 1] at hAll

/-- **Wrapping in place**: some regions of the page, which do not overlap and in which no tag
begins, are put into style elements where they stand. -/
theorem exists_tagFree_places (limit : Nat) (page : Text) : ∃ places,
    Text.Separate page places ∧ places.length ≤ limit ∧
      places.length = (wrapRegions limit page).2 ∧
      (∀ p ∈ places, Stylesheet.isLikely (Text.between p page) = true ∧
        TagFree (Text.between p page)) ∧
        Text.inPlace (places.map fun p => (p, styleElement (Text.between p page))) page =
          (wrapRegions limit page).1 := by
  have hNone : Wrapped [] page page 0 := .nil
  obtain ⟨hWrapped, hLimit⟩ := wrapped_wrapRegions limit hNone
  obtain ⟨places, hLength, hSeparate, -, hAll, hSame⟩ := hWrapped.exists_places []
  rw [Nat.zero_add] at hLength
  exact ⟨places, hSeparate, hLength ▸ hLimit, hLength, hAll, hSame⟩

theorem exists_places_wrapRegions (limit : Nat) (page : Text) : ∃ places,
    Text.Separate page places ∧ places.length ≤ limit ∧
      places.length = (wrapRegions limit page).2 ∧
      (∀ p ∈ places, Stylesheet.isLikely (Text.between p page) = true) ∧
        Text.inPlace (places.map fun p => (p, styleElement (Text.between p page))) page =
          (wrapRegions limit page).1 := by
  obtain ⟨places, hSeparate, hLimit, hLength, hAll, hSame⟩ := exists_tagFree_places limit page
  exact ⟨places, hSeparate, hLimit, hLength, fun p hp => (hAll p hp).1, hSame⟩

-- ---------------------------------------------------------------------------
-- Rules that are moved
-- ---------------------------------------------------------------------------

/-- Where rules that stood between two texts are put: before the first end of a head in the
page without them, or else before its first body tag, or else where they stood. -/
inductive Moved (before css behind : Text) : Text → Prop where
  | head {front rest : Text} (hText : before ++ behind = front ++ "</head>".toList ++ rest)
      (hFirst : ∀ a b, before ++ behind = a ++ "</head>".toList ++ b → front.length ≤ a.length) :
      Moved before css behind
        (front ++ (styleElement (trimLineEnds css) ++ "\n</head>".toList) ++ rest)
  | body {front rest : Text} (hHead : ¬ "</head>".toList <:+: before ++ behind)
      (hText : before ++ behind = front ++ "<body".toList ++ rest)
      (hFirst : ∀ a b, before ++ behind = a ++ "<body".toList ++ b → front.length ≤ a.length) :
      Moved before css behind
        (front ++ (styleElement (trimLineEnds css) ++ "\n<body".toList) ++ rest)
  | stays (hHead : ¬ "</head>".toList <:+: before ++ behind)
      (hBody : ¬ "<body".toList <:+: before ++ behind) :
      Moved before css behind (before ++ styleElement (trimLineEnds css) ++ behind)

/-- The rules that are moved are those that are found, and look like CSS. -/
theorem exists_standalone_of_moved {moved : Text} (h : wrapStandalone? page = some moved) :
    ∃ before css behind, standalone? page = some (before, css, behind) ∧
      Stylesheet.isLikely css = true ∧ Moved before css behind moved := by
  rw [wrapStandalone?] at h
  split at h
  · simp at h
  next before css behind hFound =>
  split at h
  case isFalse => simp at h
  next hLikely =>
  refine ⟨before, css, behind, hFound, hLikely, ?_⟩
  dsimp only at h
  split at h
  · next hHead =>
    obtain ⟨front, rest, hText, hFirst, hSame⟩ := Text.exists_replaceFirst hHead
    rw [hSame] at h
    exact Option.some.inj h ▸ .head hText hFirst
  · next hHead =>
    rw [Text.has_iff] at hHead
    split at h
    · next hBody =>
      obtain ⟨front, rest, hText, hFirst, hSame⟩ := Text.exists_replaceFirst hBody
      rw [hSame] at h
      exact Option.some.inj h ▸ .body hHead hText hFirst
    · next hBody =>
      rw [Text.has_iff] at hBody
      exact Option.some.inj h ▸ .stays hHead hBody

theorem moved_of_wrapStandalone? {moved : Text} (h : wrapStandalone? page = some moved) :
    ∃ before css behind, page = before ++ css ++ behind ∧ Stylesheet.isLikely css = true ∧
      Moved before css behind moved := by
  obtain ⟨before, css, behind, hFound, hLikely, hMoved⟩ := exists_standalone_of_moved h
  exact ⟨before, css, behind, (standalone?_eq hFound).1, hLikely, hMoved⟩

-- ---------------------------------------------------------------------------
-- What wrapping does
-- ---------------------------------------------------------------------------

/-- **Wrapping bare rules loses no text, and duplicates none.** Either some regions of the
page that look like CSS and do not overlap, no more than the limit, are put into style
elements where they stand, and they are counted; or none are, the page has no style
element, and one set of rules is moved. If nothing is counted, the page is kept. -/
theorem wrapBareStyle_keeps_text (limit : Nat) (page : Text) :
    ((∃ places, Text.Separate page places ∧ places.length ≤ limit ∧
        (∀ p ∈ places, Stylesheet.isLikely (Text.between p page) = true) ∧
        (wrapRegions limit page).2 = places.length ∧
        wrapBareStyle limit page =
          (Text.inPlace (places.map fun p => (p, styleElement (Text.between p page))) page,
            places.length)) ∨
      ((wrapRegions limit page).2 = 0 ∧ hasStyleTag page = false ∧
        ∃ before css behind moved, page = before ++ css ++ behind ∧
          Stylesheet.isLikely css = true ∧ Moved before css behind moved ∧
          wrapBareStyle limit page = (moved, 1))) ∧
    ((wrapBareStyle limit page).2 = 0 → (wrapBareStyle limit page).1 = page) := by
  rcases wrapBareStyle_cases limit page with hSame | ⟨hNone, hStyle, moved, hMoved, hSame⟩
  · obtain ⟨places, hSeparate, hLimit, hLength, hLikely, hPage⟩ :=
      exists_places_wrapRegions limit page
    rw [hSame]
    refine ⟨.inl ⟨places, hSeparate, hLimit, hLikely, hLength.symm, ?_⟩, wrapRegions_eq_of_none⟩
    rw [hPage, hLength]
  · obtain ⟨before, css, behind, hPage, hLikely, hPut⟩ := moved_of_wrapStandalone? hMoved
    refine ⟨.inr ⟨hNone, hStyle, before, css, behind, moved, hPage, hLikely, hPut, hSame⟩, ?_⟩
    rw [hSame]
    exact fun hZero => absurd hZero Nat.one_ne_zero

end Document

end SketchRepair
