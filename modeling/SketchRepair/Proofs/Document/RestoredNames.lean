import SketchRepair.Proofs.Document.Markup
import SketchRepair.Proofs.Text.Letter

/-!
# SketchRepair — the names of restored tags

Encoded tags of names that are not on the list are meant to be read, and are still read
behind the restoration: every name of a tag in the restored page is one of the names of
head elements, or stands in a tag of the page already. A bracket that is put in brings the
name of what was encoded; a bracket in an address or within a tag brings the name that it
had before, because the quote or the ampersand behind it ends the name as well as what
takes their place.

* `Names` — a tag of that name begins in a text; `names_append_cons` — a character that is
  not part of a name cuts it in two;
* `KeepsNames` — what a replacement does to the names; `names_of_replaceEach` — and what all
  of them do;
* `names_restoreMarkup` — the names in the restored page, and when nothing is restored.
-/

namespace SketchRepair

namespace Document

open Text (Segment Swaps segments replaceEach)

variable {t name : Text}

/-- The letters that a text begins with, or that stand behind the slash it begins with. -/
def nameBehind : Text → Text
  | '/' :: t => t.takeWhile Char.isAlpha
  | t => t.takeWhile Char.isAlpha

/-- The letters stand behind an angle bracket somewhere in the text, or behind the slash
that follows it; and there are no more of them there. -/
def Names (t name : Text) : Prop :=
  name ≠ [] ∧ ∃ behind, '<' :: behind <:+ t ∧ nameBehind behind = name

/-- The names of the elements that are restored. -/
def headNames : List Text :=
  ["script".toList, "title".toList, "style".toList, "link".toList, "meta".toList]

/-- One of the names, in any letter case. -/
def IsHeadName (name : Text) : Prop := Text.toLower name ∈ headNames

instance (name : Text) : Decidable (IsHeadName name) :=
  inferInstanceAs (Decidable (Text.toLower name ∈ headNames))

-- ---------------------------------------------------------------------------
-- The name behind a bracket
-- ---------------------------------------------------------------------------

theorem nameBehind_of_head?_ne (h : t.head? ≠ some '/') :
    nameBehind t = t.takeWhile Char.isAlpha := by
  unfold nameBehind
  split
  · exact absurd rfl h
  · rfl

/-- A name ends at a character that is no letter. -/
theorem nameBehind_append_cons {c : Char} (hc : c.isAlpha = false) (hSlash : c ≠ '/')
    (x y : Text) : nameBehind (x ++ c :: y) = nameBehind x := by
  cases x with
  | nil =>
    rw [List.nil_append, nameBehind_of_head?_ne (by simpa using hSlash),
      List.takeWhile_cons_of_neg (by simp [hc])]
    rfl
  | cons d x =>
    by_cases hd : d = '/'
    · subst hd
      exact Text.takeWhile_stop hc x y
    · have hHead (u : Text) : (d :: u).head? ≠ some '/' := by simpa using hd
      rw [List.cons_append, nameBehind_of_head?_ne (hHead _), nameBehind_of_head?_ne (hHead _),
        ← List.cons_append, Text.takeWhile_stop hc]

theorem nameBehind_of_letters (h : ∀ c ∈ t, c.isAlpha = true) : nameBehind t = t := by
  rw [nameBehind_of_head?_ne, List.takeWhile_eq_self_iff.mpr h]
  intro hSlash
  exact absurd (h '/' (List.mem_of_head? hSlash)) (by decide)

/-- The name of an encoded tag: the letters, and the slash that may stand before them. -/
theorem tagName_fst (t : Text) :
    (tagName t).1 = nameBehind t ∨ (tagName t).1 = '/' :: nameBehind t := by
  by_cases hSlash : t.head? = some '/'
  · obtain ⟨t, rfl⟩ := List.head?_eq_some_iff.mp hSlash
    exact .inr rfl
  · left
    rw [tagName, nameBehind_of_head?_ne hSlash, if_neg hSlash]
    rfl

/-- The name of a tag that is restored is the name of a head element. -/
theorem isHeadName_of_restored (h : restoredTags.contains (Text.toLower (tagName t).1) = true) :
    IsHeadName (nameBehind t) := by
  have hLetters : ∀ c ∈ nameBehind t, c.isAlpha = true := by
    intro c hc
    unfold nameBehind at hc
    split at hc <;> exact List.mem_takeWhile_imp hc
  have hAscii : ∀ c ∈ nameBehind t, c.toNat < 128 := fun c hc => Text.lt_of_isAlpha (hLetters c hc)
  have hLower : ∀ c ∈ (nameBehind t).map Char.toLower, c.isAlpha = true := by
    intro c hc
    obtain ⟨d, hd, rfl⟩ := List.mem_map.mp hc
    exact Text.isAlpha_toLower (hLetters d hd)
  have hListed : ∀ w ∈ restoredTags, nameBehind w ∈ headNames := by decide
  rw [IsHeadName, Text.toLower_of_ascii hAscii, ← nameBehind_of_letters hLower]
  have hHere := hListed _ (List.contains_iff_mem.mp h)
  rcases tagName_fst t with hName | hName
  · rwa [hName, Text.toLower_of_ascii hAscii] at hHere
  · have hAll : ∀ c ∈ '/' :: nameBehind t, c.toNat < 128 :=
      List.forall_mem_cons.mpr ⟨by decide, hAscii⟩
    rw [hName, Text.toLower_of_ascii hAll] at hHere
    rwa [nameBehind_of_letters hLower, ← List.takeWhile_eq_self_iff.mpr hLower]

-- ---------------------------------------------------------------------------
-- Names in a text
-- ---------------------------------------------------------------------------

theorem Names.of_suffix {s : Text} (h : Names s name) (hs : s <:+ t) : Names t name := by
  obtain ⟨hne, behind, hBehind, hName⟩ := h
  exact ⟨hne, behind, hBehind.trans hs, hName⟩

theorem names_cons_lt :
    Names ('<' :: t) name ↔ (name ≠ [] ∧ nameBehind t = name) ∨ Names t name := by
  constructor
  · rintro ⟨hne, behind, hBehind, hName⟩
    rcases List.suffix_cons_iff.mp hBehind with hHere | hLater
    · obtain rfl := (List.cons.inj hHere).2
      exact .inl ⟨hne, hName⟩
    · exact .inr ⟨hne, behind, hLater, hName⟩
  · rintro (⟨hne, hName⟩ | hLater)
    · exact ⟨hne, t, List.suffix_refl _, hName⟩
    · exact hLater.of_suffix (List.suffix_cons '<' t)

theorem Names.lt_mem (h : Names t name) : '<' ∈ t := by
  obtain ⟨-, behind, hBehind, -⟩ := h
  exact hBehind.subset (List.mem_cons_self ..)

theorem Names.behind {x y : Text} (h : Names (x ++ y) name) (hx : '<' ∉ x) : Names y name := by
  obtain ⟨hne, behind, hBehind, hName⟩ := h
  rcases Text.suffix_append_iff.mp hBehind with hLater | ⟨q, hq, hText⟩
  · exact ⟨hne, behind, hLater, hName⟩
  · cases q with
    | nil => exact ⟨hne, behind, hText ▸ List.suffix_refl _, hName⟩
    | cons d q =>
      obtain rfl := (List.cons.inj hText).1
      exact absurd (hq.subset (List.mem_cons_self ..)) hx

/-- No name runs over a character that is not part of one. -/
theorem names_append_cons {c : Char} (hc : c.isAlpha = false) (hSlash : c ≠ '/') (hLt : c ≠ '<')
    {x y : Text} : Names (x ++ c :: y) name ↔ Names x name ∨ Names y name := by
  constructor
  · rintro ⟨hne, behind, hBehind, hName⟩
    rcases Text.suffix_append_iff.mp hBehind with hLater | ⟨q, hq, hText⟩
    · have hNames : Names ([c] ++ y) name := ⟨hne, behind, hLater, hName⟩
      exact .inr (hNames.behind (by simpa using hLt.symm))
    · cases q with
      | nil => exact absurd (List.cons.inj hText).1.symm hLt
      | cons d q =>
        rw [List.cons_append, List.cons.injEq] at hText
        obtain ⟨rfl, rfl⟩ := hText
        rw [nameBehind_append_cons hc hSlash] at hName
        exact .inl ⟨hne, q, hq, hName⟩
  · rintro (⟨hne, behind, ⟨before, rfl⟩, rfl⟩ | hLater)
    · refine ⟨hne, behind ++ c :: y, ⟨before, ?_⟩, nameBehind_append_cons hc hSlash behind y⟩
      rw [List.append_assoc, List.cons_append]
    · exact hLater.of_suffix ((List.suffix_cons c y).trans (List.suffix_append x _))

-- ---------------------------------------------------------------------------
-- Replacements
-- ---------------------------------------------------------------------------

/-- What is put in brings no names but those of head elements, and those it stands for. -/
def KeepsNames (old new : Text) : Prop :=
  ∀ name, Names new name → IsHeadName name ∨ ∀ u, Names (old ++ u) name

section Segments

variable {segs : List Segment}

theorem letters_new_eq_old (h : ∀ old new, .swapped old new ∈ segs → Restored old new) :
    (segs.flatMap Segment.new).takeWhile Char.isAlpha =
      (segs.flatMap Segment.old).takeWhile Char.isAlpha := by
  induction segs with
  | nil => rfl
  | cons seg segs ih =>
    rw [List.flatMap_cons, List.flatMap_cons]
    cases seg with
    | kept c =>
      rw [Segment.new, Segment.old, List.singleton_append, List.singleton_append,
        List.takeWhile_cons, List.takeWhile_cons, ih fun old new hMem => h old new (.tail _ hMem)]
    | swapped old new =>
      obtain ⟨⟨x, rfl⟩, ⟨y, rfl⟩, -, -⟩ := h old new (.head _)
      rfl

/-- A bracket that is kept keeps its name. -/
theorem nameBehind_new_eq_old (h : ∀ old new, .swapped old new ∈ segs → Restored old new) :
    nameBehind (segs.flatMap Segment.new) = nameBehind (segs.flatMap Segment.old) := by
  have hLetters := letters_new_eq_old h
  cases segs with
  | nil => rfl
  | cons seg segs =>
    rw [List.flatMap_cons, List.flatMap_cons] at hLetters ⊢
    cases seg with
    | kept c =>
      by_cases hc : c = '/'
      · subst hc
        exact letters_new_eq_old fun old new hMem => h old new (.tail _ hMem)
      · have hHead (u : Text) : ([c] ++ u).head? ≠ some '/' := by simpa using hc
        rw [Segment.new, Segment.old] at hLetters ⊢
        rw [nameBehind_of_head?_ne (hHead _), nameBehind_of_head?_ne (hHead _), hLetters]
    | swapped old new =>
      obtain ⟨⟨x, rfl⟩, ⟨y, rfl⟩, -, -⟩ := h old new (.head _)
      rfl

end Segments

variable {m : Text → Option (Text × Text)}

/-- If each replacement keeps the names, all of them do. -/
theorem names_of_replaceEach (hm : Swaps m fun old new => Restored old new ∧ KeepsNames old new)
    (h : Names (replaceEach m t).1 name) : IsHeadName name ∨ Names t name := by
  obtain ⟨hne, behind, hBehind, hName⟩ := h
  rw [← Text.segments_new] at hBehind
  obtain ⟨a, seg, b, r, hSegs, hr, hrne, hText⟩ :=
    Text.exists_of_suffix_new hBehind (List.cons_ne_nil _ _)
  obtain ⟨d, r, rfl⟩ := List.exists_cons_of_ne_nil hrne
  rw [List.cons_append, List.cons.injEq] at hText
  obtain ⟨rfl, rfl⟩ := hText
  have hAll : ∀ old new, .swapped old new ∈ seg :: b → Restored old new ∧ KeepsNames old new :=
    fun old new hMem =>
      (Text.swapped_of_mem_segments hm (hSegs ▸ List.mem_append_right a hMem)).2
  have hOld : (seg :: b).flatMap Segment.old <:+ t := by
    rw [← Text.segments_old hm t, hSegs, List.flatMap_append]
    exact List.suffix_append _ _
  rw [List.flatMap_cons] at hOld
  cases seg with
  | kept c =>
    -- the bracket stood in the text before, and so did the name behind it
    have hOnly : '<' :: r = [c] ∨ '<' :: r = [] := by
      rcases List.suffix_cons_iff.mp hr with hHere | hLater
      · exact .inl hHere
      · exact .inr (List.suffix_nil.mp hLater)
    obtain ⟨rfl, rfl⟩ := List.cons.inj (hOnly.resolve_right (List.cons_ne_nil _ _))
    refine .inr ⟨hne, b.flatMap Segment.old, hOld, ?_⟩
    rw [← hName, List.nil_append]
    exact (nameBehind_new_eq_old fun old new hMem => (hAll old new (.tail _ hMem)).1).symm
  | swapped old new =>
    obtain ⟨hRestored, hKeeps⟩ := hAll old new (.head _)
    obtain ⟨n, rfl⟩ := hRestored.closes
    -- what is put in ends with a bracket, which ends the name as well
    have hHere : Names (n ++ ['>']) name := by
      refine ⟨hne, r, hr, ?_⟩
      rcases Text.suffix_append_iff.mp hr with hEnd | ⟨q, -, hq⟩
      · have := hEnd.subset (List.mem_cons_self ..)
        simp at this
      · cases q with
        | nil => simp at hq
        | cons e q =>
          rw [List.cons_append, List.cons.injEq] at hq
          obtain ⟨-, rfl⟩ := hq
          rw [List.append_assoc, List.singleton_append,
            nameBehind_append_cons (by decide) (by decide)] at hName
          rw [nameBehind_append_cons (by decide) (by decide), hName]
    exact (hKeeps name hHere).imp_right fun hBefore => (hBefore _).of_suffix hOld

-- ---------------------------------------------------------------------------
-- The three replacements
-- ---------------------------------------------------------------------------

theorem keepsNames_script : Swaps encodedScript? KeepsNames :=
  swaps_encodedScript?.mono fun old new ⟨a, url, b, hOld, hNew⟩ => by
    intro name hName
    have hParts : new = '<' :: ("script".toList ++ ' ' :: ("src=".toList ++ '"' :: (url ++ '"' ::
        (['>'] ++ '<' :: ("/script".toList ++ '>' :: []))))) := by rw [hNew]; simp
    rw [hParts, names_cons_lt] at hName
    rcases hName with ⟨-, rfl⟩ | hName
    · rw [nameBehind_append_cons (by decide) (by decide)]
      exact .inl (by decide)
    rw [names_append_cons (by decide) (by decide) (by decide),
      names_append_cons (by decide) (by decide) (by decide),
      names_append_cons (by decide) (by decide) (by decide)] at hName
    rcases hName with hTag | hSource | hAddress | hEnd
    · exact absurd hTag.lt_mem (by decide)
    · exact absurd hSource.lt_mem (by decide)
    · right
      intro u
      have hText : old ++ u = ('&' :: a) ++ '"' :: (url ++ '"' :: (b ++ u)) := by rw [hOld]; simp
      rw [hText, names_append_cons (by decide) (by decide) (by decide),
        names_append_cons (by decide) (by decide) (by decide)]
      exact .inr (.inl hAddress)
    · have hCloser := hEnd.behind (by decide)
      rw [names_cons_lt] at hCloser
      rcases hCloser with ⟨-, rfl⟩ | hLater
      · exact .inl (by decide)
      · exact absurd hLater.lt_mem (by decide)

theorem keepsNames_title : Swaps encodedTitle? KeepsNames :=
  swaps_encodedTitle?.mono fun old new ⟨a, title, b, hOld, hTitle, _, hNew⟩ => by
    intro name hName
    have hParts : new = '<' :: ("title".toList ++ '>' :: (title ++
        '<' :: "/title>".toList)) := by rw [hNew]; simp
    rw [hParts, names_cons_lt] at hName
    rcases hName with ⟨-, rfl⟩ | hName
    · rw [nameBehind_append_cons (by decide) (by decide)]
      exact .inl (by decide)
    rw [names_append_cons (by decide) (by decide) (by decide)] at hName
    rcases hName with hTag | hEnd
    · exact absurd hTag.lt_mem (by decide)
    · rcases names_cons_lt.mp (hEnd.behind hTitle) with ⟨-, rfl⟩ | hLater
      · exact .inl (by decide)
      · exact absurd hLater.lt_mem (by decide)

theorem keepsNames_tag : Swaps encodedTag? KeepsNames :=
  swaps_namedTag.mono fun old new ⟨inner, hListed, hOld, hNew⟩ => by
    intro name hName
    rw [hNew, names_cons_lt] at hName
    rcases hName with ⟨-, rfl⟩ | hName
    · rw [nameBehind_append_cons (by decide) (by decide)]
      exact .inl (isHeadName_of_restored hListed)
    rw [names_append_cons (by decide) (by decide) (by decide)] at hName
    rcases hName with hInner | hNone
    · right
      intro u
      have hText : old ++ u = "&lt;".toList ++ (inner ++ '&' :: ("gt;".toList ++ u)) := by
        rw [hOld]; simp
      rw [hText]
      refine Names.of_suffix ?_ (List.suffix_append _ _)
      exact (names_append_cons (by decide) (by decide) (by decide)).mpr (.inl hInner)
    · exact absurd hNone.lt_mem List.not_mem_nil

/-- **No other tags**: the names of the tags in the restored page are names of head elements,
or names of tags in the page; and nothing is restored exactly if the page stays as it is. -/
theorem names_restoreMarkup (page : Text) :
    (∀ name, Names (restoreMarkup page).1 name → IsHeadName name ∨ Names page name) ∧
      ((restoreMarkup page).2 = 0 ↔ (restoreMarkup page).1 = page) := by
  refine ⟨fun name hName => ?_, number_eq_zero_iff_eq page⟩
  rw [restoreMarkup_eq] at hName
  rcases names_of_replaceEach (restored_tag.and keepsNames_tag) hName with hHead | hName
  · exact .inl hHead
  rcases names_of_replaceEach (restored_title.and keepsNames_title) hName with hHead | hName
  · exact .inl hHead
  · exact names_of_replaceEach (restored_script.and keepsNames_script) hName

/-- In an address, a tag stays a tag, and an encoded one of another name stays encoded. -/
example : (restoreMarkup "&lt;script src=\"<p>&lt;b&gt;\"&gt;".toList).1 =
    "<script src=\"<p>&lt;b&gt;\"></script>".toList := by
  decide +kernel

end Document

end SketchRepair
