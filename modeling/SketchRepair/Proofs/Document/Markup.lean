import Mathlib.Data.List.TakeWhile
import SketchRepair.Document.Markup
import SketchRepair.Proofs.Text.Occurrence
import SketchRepair.Proofs.Text.Replacement

/-!
# SketchRepair — what restoring encoded markup replaces

Each of the three replacements takes in a text that begins with an encoded bracket,
and puts in a text without one: the ampersand is gone, and what it stood before is
all that is left. So every replacement uses up an ampersand of the page.

* `swaps_encodedScript?`, `swaps_encodedTitle?`, `swaps_encodedTag?` — what is taken in
  by each of the replacements, and what takes its place;
* `encodedTag?_encoded`, `swaps_namedTag` — which tags are restored;
* `Restored` — what the three have in common;
* `count_restoreMarkup` — a page has fewer ampersands by the number of replacements;
* `restoreMarkup_eq_self_iff` — and stays as it is if nothing in it is an encoded element.
-/

namespace SketchRepair

namespace Document

open Text (Swaps)

variable {t rest : Text}

-- ---------------------------------------------------------------------------
-- What the replacements pass over
-- ---------------------------------------------------------------------------

theorem suffix_of_afterFold? {p : Text} (h : Text.afterFold? p t = some rest) : rest <:+ t := by
  obtain ⟨passed, rfl, -⟩ := Text.afterFold?_eq_some_iff.mp h
  exact List.suffix_append passed rest

theorem skipFold_suffix (p t : Text) : skipFold p t <:+ t := by
  rw [skipFold]
  cases hAfter : Text.afterFold? p (t.dropWhile isBlank) with
  | none => exact List.suffix_refl t
  | some rest => exact (suffix_of_afterFold? hAfter).trans (List.dropWhile_suffix _)

theorem skipEncodedCloser_suffix (t : Text) : skipEncodedCloser t <:+ t := by
  rw [skipEncodedCloser]
  split
  · exact List.suffix_refl t
  · next r hName =>
    have hr : r <:+ t := (suffix_of_afterFold? hName).trans (List.dropWhile_suffix _)
    cases hEnd : Text.afterFold? "&gt;".toList (r.dropWhile isBlank) with
    | none => exact List.suffix_refl t
    | some rest => exact ((suffix_of_afterFold? hEnd).trans (List.dropWhile_suffix _)).trans hr

theorem skipTitleCloser_suffix (t : Text) : skipTitleCloser t <:+ t := by
  rw [skipTitleCloser]
  cases hPlain : Text.afterFold? "</title>".toList t with
  | some rest => exact suffix_of_afterFold? hPlain
  | none =>
    cases hEncoded : Text.afterFold? "&lt;/title&gt;".toList t with
    | some rest => exact suffix_of_afterFold? hEncoded
    | none => exact List.suffix_refl t

/-- An encoded opening bracket begins with an ampersand. -/
theorem exists_ampersand (h : Text.afterFold? "&lt;".toList t = some rest) :
    ∃ x, t = '&' :: (x ++ rest) := by
  obtain ⟨lead, rfl, hLead⟩ := Text.afterFold?_eq_some_iff.mp h
  obtain ⟨c, x, rfl, hc, -⟩ := List.map_eq_cons_iff.mp hLead
  have hc : c = '&' := Text.eq_of_fold_eq (by decide) hc
  exact ⟨x, by rw [hc, List.cons_append]⟩

/-- The address of a script stands behind a quote. -/
theorem quote_suffix_of_source (h : Text.afterFold? "src=\"".toList t = some rest) :
    '"' :: rest <:+ t := by
  obtain ⟨source, rfl, hSource⟩ := Text.afterFold?_eq_some_iff.mp h
  rw [show "src=\"".toList = "src=".toList ++ ['"'] by decide] at hSource
  obtain ⟨lead, quote, rfl, -, hQuote⟩ := List.map_eq_append_iff.mp hSource
  obtain ⟨c, rfl, hc⟩ := List.map_eq_singleton_iff.mp hQuote
  obtain rfl : c = '"' := Text.eq_of_fold_eq (by decide) hc
  exact ⟨lead, by rw [List.append_assoc, List.singleton_append]⟩

/-- The name of a tag has no ampersand in it. -/
theorem tagName_eq (t : Text) : (tagName t).1 ++ (tagName t).2 = t ∧ '&' ∉ (tagName t).1 := by
  rw [tagName]
  generalize hSlash : (if t.head? = some '/' then ['/'] else []) = slash
  have hLead : slash <+: t ∧ '&' ∉ slash := by
    split at hSlash
    · next hHead =>
      obtain ⟨rest, rfl⟩ := List.head?_eq_some_iff.mp hHead
      exact hSlash ▸ ⟨⟨rest, rfl⟩, by decide⟩
    · exact hSlash ▸ ⟨List.nil_prefix, List.not_mem_nil⟩
  obtain ⟨rest, rfl⟩ := hLead.1
  dsimp only
  rw [← List.drop_drop, List.drop_left, List.append_assoc]
  refine ⟨?_, ?_⟩
  · rw [Text.takeWhile_append_drop]
  · intro hMem
    rcases List.mem_append.mp hMem with hIn | hIn
    · exact hLead.2 hIn
    · exact absurd (List.mem_takeWhile_imp hIn) (by decide)

-- ---------------------------------------------------------------------------
-- What is replaced
-- ---------------------------------------------------------------------------

/-- An encoded script has its address in it, and that is what is kept. -/
theorem swaps_encodedScript? : Swaps encodedScript? fun old new =>
    ∃ a url b, old = '&' :: (a ++ '"' :: (url ++ '"' :: b)) ∧
      new = "<script src=\"".toList ++ url ++ "\"></script>".toList := by
  intro t new rest h
  rw [encodedScript?] at h
  split at h
  · simp at h
  · next r hBracket =>
    dsimp only at h
    split at h
    · simp at h
    · next s hSource =>
      split at h
      · simp at h
      · next url behind hUrl =>
        split at h
        · simp at h
        · rw [Option.some.injEq, Prod.mk.injEq] at h
          obtain ⟨rfl, rfl⟩ := h
          obtain ⟨x, rfl⟩ := exists_ampersand hBracket
          obtain ⟨a, rfl⟩ := ((quote_suffix_of_source hSource).trans
            (List.dropWhile_suffix _)).trans (skipFold_suffix "script".toList r)
          obtain ⟨rfl, -⟩ := Text.upTo?_eq_some.mp hUrl
          obtain ⟨b, hb⟩ := (skipEncodedCloser_suffix _).trans
            (skipFold_suffix "&gt;".toList behind)
          refine ⟨'&' :: (x ++ a ++ '"' :: (url ++ '"' :: b)), ?_, List.cons_ne_nil _ _,
            x ++ a, url, b, rfl, rfl⟩
          conv_lhs => rw [← hb]
          simp

/-- A title stands behind blanks, or is the last of them. -/
theorem title_suffix (s : Text) :
    let gap := s.takeWhile isBlank
    let run := (s.drop gap.length).takeWhile isTitleChar
    (if run.isEmpty then gap.drop (gap.length - 1) else run) ++ (s.drop gap.length).drop run.length
      <:+ s := by
  intro gap run
  have hGap : gap ++ s.drop gap.length = s := Text.takeWhile_append_drop isBlank s
  have hRun : run ++ (s.drop gap.length).drop run.length = s.drop gap.length :=
    Text.takeWhile_append_drop isTitleChar _
  split
  · next hEmpty =>
    refine ⟨gap.take (gap.length - 1), ?_⟩
    rw [List.isEmpty_iff.mp hEmpty, List.length_nil, List.drop_zero, ← List.append_assoc,
      List.take_append_drop, hGap]
  · rw [hRun]
    exact List.drop_suffix gap.length s

/-- An encoded title has no tag in it. -/
theorem swaps_encodedTitle? : Swaps encodedTitle? fun old new =>
    ∃ a title b, old = '&' :: (a ++ title ++ b) ∧ '<' ∉ title ∧ '&' ∉ title ∧
      new = "<title>".toList ++ title ++ "</title>".toList := by
  intro t new rest h
  rw [encodedTitle?] at h
  split at h
  · simp at h
  · next r hBracket =>
    split at h
    · simp at h
    · next s hEnd =>
      dsimp only at h
      generalize hGap : s.takeWhile isBlank = gap at h
      generalize hRun : (s.drop gap.length).takeWhile isTitleChar = run at h
      generalize hTitle : (if run.isEmpty = true then gap.drop (gap.length - 1) else run) =
        title at h
      have hPlain (c : Char) (hc : isTitleChar c = false) (hBlank : isBlank c = false) :
          c ∉ title := by
        rw [← hTitle]
        intro hMem
        split at hMem
        · -- a title that is taken from the blanks before it
          rw [← hGap] at hMem
          have := List.mem_takeWhile_imp (List.mem_of_mem_drop hMem)
          exact absurd this (by rw [hBlank]; decide)
        · rw [← hRun] at hMem
          exact absurd (List.mem_takeWhile_imp hMem) (by rw [hc]; decide)
      split at h
      · simp at h
      · rw [Option.some.injEq, Prod.mk.injEq] at h
        obtain ⟨rfl, rfl⟩ := h
        obtain ⟨x, rfl⟩ := exists_ampersand hBracket
        obtain ⟨y, rfl⟩ := (suffix_of_afterFold? hEnd).trans (List.dropWhile_suffix _)
        obtain ⟨g, hg⟩ : title ++ (s.drop gap.length).drop run.length <:+ s := by
          simpa only [hGap, hRun, hTitle] using title_suffix s
        obtain ⟨b, hb⟩ := skipTitleCloser_suffix ((s.drop gap.length).drop run.length)
        refine ⟨'&' :: (x ++ y ++ g ++ title ++ b), ?_, List.cons_ne_nil _ _, x ++ y ++ g, title, b,
          rfl, hPlain '<' rfl (by decide), hPlain '&' rfl (by decide), rfl⟩
        conv_lhs => rw [← hg, ← hb]
        simp

/-- Of a tag the encoded brackets are replaced. -/
theorem swaps_encodedTag? : Swaps encodedTag? fun old new =>
    ∃ inner, '&' ∉ inner ∧ old = "&lt;".toList ++ inner ++ "&gt;".toList ∧
      new = '<' :: (inner ++ ['>']) := by
  intro t new rest h
  rw [encodedTag?] at h
  split at h
  · simp at h
  · next r hBracket =>
    obtain ⟨hName, hPlain⟩ := tagName_eq r
    dsimp only at h
    split at h
    · simp at h
    · next behind hEnd =>
      split at h
      · rw [Option.some.injEq, Prod.mk.injEq] at h
        obtain ⟨rfl, rfl⟩ := h
        generalize hInner : (tagName r).1 ++ (tagName r).2.takeWhile (· ≠ '&') = inner
        have hText : r = inner ++ "&gt;".toList ++ behind := by
          rw [← hInner, List.append_assoc _ "&gt;".toList, List.append_assoc,
            ← Text.after?_eq_some.mp hEnd,
            Text.takeWhile_append_drop, hName]
        refine ⟨"&lt;".toList ++ inner ++ "&gt;".toList, ?_, by simp, inner, ?_, rfl, ?_⟩
        · rw [Text.after?_eq_some.mp hBracket, hText]
          simp
        · rw [← hInner]
          intro hMem
          rcases List.mem_append.mp hMem with hIn | hIn
          · exact hPlain hIn
          · exact absurd (List.mem_takeWhile_imp hIn) (by decide)
        · rw [← hInner]
          simp
      · simp at h

-- ---------------------------------------------------------------------------
-- Which tags are restored
-- ---------------------------------------------------------------------------

/-- The name of a tag ends before an ampersand. -/
theorem tagName_append (x rest : Text) :
    tagName (x ++ '&' :: rest) = ((tagName x).1, (tagName x).2 ++ '&' :: rest) := by
  have hSlash : (x ++ '&' :: rest).head? = some '/' ↔ x.head? = some '/' := by
    cases x <;> simp
  rw [tagName, tagName]
  simp only [hSlash]
  generalize hLead : (if x.head? = some '/' then ['/'] else []) = slash
  obtain ⟨r, rfl⟩ : slash <+: x := by
    split at hLead
    · next hHead =>
      obtain ⟨r, rfl⟩ := List.head?_eq_some_iff.mp hHead
      exact hLead ▸ ⟨r, rfl⟩
    · exact hLead ▸ List.nil_prefix
  have hLetters := (List.takeWhile_prefix Char.isAlpha (l := r)).length_le
  rw [List.append_assoc, ← List.drop_drop, ← List.drop_drop, List.drop_left, List.drop_left,
    Text.takeWhile_stop (by decide), List.drop_append_of_le_length hLetters]

/-- Whether an encoded tag is restored depends on its name. -/
theorem encodedTag?_encoded {inner : Text} (h : '&' ∉ inner) (rest : Text) :
    encodedTag? ("&lt;".toList ++ inner ++ "&gt;".toList ++ rest) =
      if restoredTags.contains (Text.toLower (tagName inner).1) then
        some ('<' :: (inner ++ ['>']), rest)
      else none := by
  have hText : "&lt;".toList ++ inner ++ "&gt;".toList ++ rest =
      "&lt;".toList ++ (inner ++ '&' :: ("gt;".toList ++ rest)) := by simp
  obtain ⟨hName, -⟩ := tagName_eq inner
  have hBody : ((tagName inner).2 ++ '&' :: ("gt;".toList ++ rest)).takeWhile (· ≠ '&') =
      (tagName inner).2 := by
    rw [Text.takeWhile_stop (by decide), List.takeWhile_eq_self_iff]
    intro c hc
    have : c ∈ inner := hName ▸ List.mem_append_right _ hc
    exact decide_eq_true fun he => h (he ▸ this)
  have hEnd : Text.after? "&gt;".toList ('&' :: ("gt;".toList ++ rest)) = some rest :=
    Text.after?_eq_some.mpr rfl
  rw [hText, encodedTag?, Text.after?_eq_some.mpr rfl]
  dsimp only
  rw [tagName_append]
  dsimp only
  rw [hBody, List.drop_left, hEnd]
  dsimp only
  have hNew : ['<'] ++ (tagName inner).1 ++ (tagName inner).2 ++ ['>'] =
      '<' :: (inner ++ ['>']) := by
    rw [List.append_assoc ['<'], hName, List.append_assoc]
    rfl
  rw [hNew]

/-- So no more of a text is looked at than the tag. -/
theorem local_encodedTag? : Text.Local encodedTag? := by
  intro t new rest h
  obtain ⟨old, rfl, -, inner, hInner, rfl, rfl⟩ := swaps_encodedTag? h
  refine ⟨_, rfl, fun r => ?_⟩
  rw [encodedTag?_encoded hInner] at h ⊢
  split at h
  · next hName => rw [if_pos hName]
  · simp at h

/-- Of a tag that is restored the name is on the list. -/
theorem swaps_namedTag : Swaps encodedTag? fun old new =>
    ∃ inner, restoredTags.contains (Text.toLower (tagName inner).1) = true ∧
      old = "&lt;".toList ++ inner ++ "&gt;".toList ∧ new = '<' :: (inner ++ ['>']) := by
  intro t new rest h
  obtain ⟨old, rfl, hne, inner, hInner, rfl, hNew⟩ := swaps_encodedTag? h
  refine ⟨_, rfl, hne, inner, ?_, rfl, hNew⟩
  rw [encodedTag?_encoded hInner] at h
  split at h
  · assumption
  · simp at h

-- ---------------------------------------------------------------------------
-- What the three have in common
-- ---------------------------------------------------------------------------

/-- What was encoded is put in as a text between angle brackets; the quotes in it were
there before. -/
structure Restored (old new : Text) : Prop where
  encoded : ∃ x, old = '&' :: x
  opens : ∃ x, new = '<' :: x
  closes : ∃ x, new = x ++ ['>']
  quoted : '"' ∈ new → '"' ∈ old

theorem restored_script : Swaps encodedScript? Restored :=
  swaps_encodedScript?.mono fun old new ⟨a, url, b, hOld, hNew⟩ =>
    { encoded := ⟨_, hOld⟩
      opens := ⟨"script src=\"".toList ++ url ++ "\"></script>".toList, hNew⟩
      closes := ⟨"<script src=\"".toList ++ url ++ "\"></script".toList, by rw [hNew]; simp⟩
      quoted := fun _ => by rw [hOld]; simp }

theorem restored_title : Swaps encodedTitle? Restored :=
  swaps_encodedTitle?.mono fun old new ⟨a, title, b, hOld, _, _, hNew⟩ =>
    { encoded := ⟨_, hOld⟩
      opens := ⟨"title>".toList ++ title ++ "</title>".toList, hNew⟩
      closes := ⟨"<title>".toList ++ title ++ "</title".toList, by rw [hNew]; simp⟩
      quoted := fun hQuote => by
        rw [hNew] at hQuote
        rw [hOld]
        simp at hQuote ⊢
        exact .inr (.inl hQuote) }

theorem restored_tag : Swaps encodedTag? Restored :=
  swaps_encodedTag?.mono fun old new ⟨inner, _, hOld, hNew⟩ =>
    { encoded := ⟨_, hOld⟩
      opens := ⟨_, hNew⟩
      closes := ⟨'<' :: inner, hNew⟩
      quoted := fun hQuote => by
        rw [hNew] at hQuote
        rw [hOld]
        simpa using hQuote }

-- ---------------------------------------------------------------------------
-- Ampersands
-- ---------------------------------------------------------------------------

/-- Every replacement uses up an ampersand. -/
theorem count_restoreMarkup (page : Text) :
    (restoreMarkup page).1.count '&' + (restoreMarkup page).2 ≤ page.count '&' := by
  have hScripts := Text.count_replaceEach (c := '&') (swaps_encodedScript?.mono fun old new h => by
    obtain ⟨a, url, b, rfl, rfl⟩ := h
    have hLeft : "<script src=\"".toList.count '&' = 0 := by decide
    have hRight : "\"></script>".toList.count '&' = 0 := by decide
    have hQuote (u : Text) : ('"' :: u).count '&' = u.count '&' :=
      List.count_cons_of_ne (by decide)
    simp only [List.count_append, List.count_cons_self, hQuote, hLeft, hRight]
    omega) page
  have hTitles := Text.count_replaceEach (c := '&') (swaps_encodedTitle?.mono fun old new h => by
    obtain ⟨a, title, b, rfl, -, hTitle, rfl⟩ := h
    have hLeft : "<title>".toList.count '&' = 0 := by decide
    have hRight : "</title>".toList.count '&' = 0 := by decide
    simp only [List.count_append, List.count_cons_self, List.count_eq_zero_of_not_mem hTitle, hLeft,
      hRight]
    omega) (Text.replaceEach encodedScript? page).1
  have hTags := Text.count_replaceEach (c := '&') (swaps_encodedTag?.mono fun old new h => by
    obtain ⟨inner, hInner, rfl, rfl⟩ := h
    have hLeft : "&lt;".toList.count '&' = 1 := by decide
    have hEnd : ['>'].count '&' = 0 := by decide
    simp only [List.count_append, List.count_eq_zero_of_not_mem hInner, hLeft, hEnd,
      List.count_cons_of_ne (show '<' ≠ '&' by decide)]
    omega) (Text.replaceEach encodedTitle? (Text.replaceEach encodedScript? page).1).1
  simp only [restoreMarkup]
  omega

-- ---------------------------------------------------------------------------
-- One after the other
-- ---------------------------------------------------------------------------

/-- The page with its encoded scripts restored. -/
def withScripts (page : Text) : Text := (Text.replaceEach encodedScript? page).1

/-- The page with its encoded scripts and titles restored. -/
def withTitles (page : Text) : Text := (Text.replaceEach encodedTitle? (withScripts page)).1

theorem restoreMarkup_eq (page : Text) : restoreMarkup page =
    ((Text.replaceEach encodedTag? (withTitles page)).1,
      (Text.replaceEach encodedScript? page).2 +
        (Text.replaceEach encodedTitle? (withScripts page)).2 +
          (Text.replaceEach encodedTag? (withTitles page)).2) := rfl

theorem withScripts_eq_self {page : Text} (h : (Text.replaceEach encodedScript? page).2 = 0) :
    withScripts page = page :=
  Text.replaceEach_eq_self restored_script h

theorem withTitles_eq_self {page : Text} (hScripts : (Text.replaceEach encodedScript? page).2 = 0)
    (hTitles : (Text.replaceEach encodedTitle? page).2 = 0) : withTitles page = page := by
  rw [withTitles, withScripts_eq_self hScripts]
  exact Text.replaceEach_eq_self restored_title hTitles

/-- Where none of the three finds anything, nothing is replaced before the next one looks. -/
theorem number_eq_zero_iff (page : Text) : (restoreMarkup page).2 = 0 ↔
    (Text.replaceEach encodedScript? page).2 = 0 ∧ (Text.replaceEach encodedTitle? page).2 = 0 ∧
      (Text.replaceEach encodedTag? page).2 = 0 := by
  rw [restoreMarkup_eq, Nat.add_eq_zero_iff, Nat.add_eq_zero_iff, and_assoc]
  refine and_congr_right fun hScripts => ?_
  rw [withScripts_eq_self hScripts]
  refine and_congr_right fun hTitles => ?_
  rw [withTitles_eq_self hScripts hTitles]

/-- Nothing is replaced exactly if the page stays as it is. -/
theorem number_eq_zero_iff_eq (page : Text) :
    (restoreMarkup page).2 = 0 ↔ (restoreMarkup page).1 = page := by
  constructor
  · intro h
    obtain ⟨hScripts, hTitles, hTags⟩ := (number_eq_zero_iff page).mp h
    rw [restoreMarkup_eq, withTitles_eq_self hScripts hTitles]
    exact Text.replaceEach_eq_self restored_tag hTags
  · intro h
    have hCount := count_restoreMarkup page
    rw [h] at hCount
    omega

/-- The page is its own restoration where nothing encoded begins. -/
theorem restoreMarkup_eq_self_iff (page : Text) : restoreMarkup page = (page, 0) ↔
    ∀ s, s <:+ page → s ≠ [] →
      encodedScript? s = none ∧ encodedTitle? s = none ∧ encodedTag? s = none := by
  have hPair : restoreMarkup page = (page, 0) ↔ (restoreMarkup page).2 = 0 := by
    rw [Prod.ext_iff, ← number_eq_zero_iff_eq, and_self]
  rw [hPair, number_eq_zero_iff, Text.count_eq_zero_iff, Text.count_eq_zero_iff,
    Text.count_eq_zero_iff]
  simp only [← forall_and]

end Document

end SketchRepair
