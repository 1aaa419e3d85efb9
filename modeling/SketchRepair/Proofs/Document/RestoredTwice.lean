import SketchRepair.Proofs.Document.EncodedElement

/-!
# SketchRepair — restoring the restored page

Each of the three replacements goes over the page once, from left to right, and does not
look again at what it has put in. What is encoded in the restored page begins with an
ampersand, and that ampersand was there before: so the characters behind it were there too,
up to the first bracket that was put in. For titles that is enough to say that they were
found then. An encoded script may begin within an address, which was not looked at; and an
encoded tag is not seen as one as long as there is another within it.

* `Becomes` — the end of a page before and behind a replacement;
* `encodedTitle?_eq_none_of_suffix` — no encoded titles are left;
* `LeavesScript`, `LeavesTag` — what is left;
* `restoreMarkup_restored_iff` — the restored page stays as it is if nothing is left.
-/

namespace SketchRepair

namespace Document

open Text (Segment Swaps segments replaceEach)

variable {m : Text → Option (Text × Text)} {page t s s' w x : Text}

-- ---------------------------------------------------------------------------
-- From the restored page back to the page
-- ---------------------------------------------------------------------------

/-- No match runs over the beginning of `s`, with which the text ends, and `s` becomes `s'`
when the matches are replaced. -/
def Becomes (m : Text → Option (Text × Text)) (t s s' : Text) : Prop :=
  ∃ a b, segments m t = a ++ b ∧ b.flatMap Segment.old = s ∧ b.flatMap Segment.new = s'

theorem Becomes.new_suffix (h : Becomes m t s s') : s' <:+ (replaceEach m t).1 := by
  obtain ⟨a, b, hSegs, -, rfl⟩ := h
  rw [← Text.segments_new, hSegs, List.flatMap_append]
  exact List.suffix_append _ _

/-- Two such places cut out what stands between them. -/
theorem Becomes.exists_between {y : Text} (h : Becomes m t s (w ++ x)) (hw : w ≠ [])
    (hBehind : Becomes m t y x) : ∃ a b c, segments m t = a ++ b ++ c ∧
      (b ++ c).flatMap Segment.old = s ∧ b.flatMap Segment.new = w ∧ c.flatMap Segment.new = x := by
  obtain ⟨a, d, hSegs, hOld, hNew⟩ := h
  obtain ⟨a', c, hCut, -, rfl⟩ := hBehind
  obtain ⟨b, rfl, rfl⟩ : ∃ b, a' = a ++ b ∧ d = b ++ c := by
    rcases List.append_eq_append_iff.mp (hSegs.symm.trans hCut) with hLater | ⟨b, -, rfl⟩
    · exact hLater
    · -- the second place does not stand before the first, because less follows it
      have hLength := congrArg List.length hNew
      have hPos := List.length_pos_iff.mpr hw
      rw [List.length_append, List.flatMap_append, List.length_append] at hLength
      omega
  rw [List.flatMap_append] at hNew
  exact ⟨a, b, c, hCut, hOld, List.append_cancel_right hNew, rfl⟩

section Becomes

variable (hm : Swaps m Restored)

include hm

theorem restored_of_mem {old new : Text} (h : .swapped old new ∈ segments m t) :
    Restored old new :=
  (Text.swapped_of_mem_segments hm h).2

theorem Becomes.suffix (h : Becomes m t s s') : s <:+ t := by
  obtain ⟨a, b, hSegs, rfl, -⟩ := h
  rw [← Text.segments_old hm t, hSegs, List.flatMap_append]
  exact List.suffix_append _ _

/-- What has no bracket in it was there before. -/
theorem Becomes.exists_append (h : Becomes m t s (w ++ x)) (hw : '<' ∉ w) :
    ∃ y, s = w ++ y ∧ Becomes m t y x := by
  obtain ⟨a, b, hSegs, rfl, hNew⟩ := h
  obtain ⟨c, rfl, hc⟩ := Text.exists_kept_of_new hw (fun old new hMem =>
    (restored_of_mem hm (hSegs ▸ List.mem_append_right a hMem)).opens) hNew
  refine ⟨c.flatMap Segment.old, ?_, a ++ w.map Segment.kept, c, ?_, rfl, hc⟩
  · rw [List.flatMap_append, Text.kept_old]
  · rw [hSegs, List.append_assoc]

/-- So were the quotes. -/
theorem Becomes.quote_mem (h : Becomes m t s s') (hQuote : '"' ∈ s') : '"' ∈ s := by
  obtain ⟨a, b, hSegs, rfl, rfl⟩ := h
  obtain ⟨seg, hSeg, hQuote⟩ := List.mem_flatMap.mp hQuote
  refine List.mem_flatMap.mpr ⟨seg, hSeg, ?_⟩
  cases seg with
  | kept c => exact hQuote
  | swapped old new =>
    exact (restored_of_mem hm (hSegs ▸ List.mem_append_right a hSeg)).quoted hQuote

/-- A quote that the text begins with stays. -/
theorem Becomes.head?_eq_quote (h : Becomes m t s s') (hQuote : s.head? = some '"') :
    s'.head? = some '"' := by
  obtain ⟨a, b, hSegs, rfl, rfl⟩ := h
  cases b with
  | nil => exact hQuote
  | cons seg b =>
    cases seg with
    | kept c => exact hQuote
    | swapped old new =>
      obtain ⟨⟨x, rfl⟩, -, -, -⟩ :=
        restored_of_mem hm (hSegs ▸ List.mem_append_right a (.head b))
      simp [Segment.old] at hQuote

/-- An ampersand in the replaced text was kept, and no match begins at it, or it is part
of what was put in. -/
theorem becomes_or_exists_swapped (h : '&' :: x <:+ (replaceEach m t).1) :
    (∃ s, Becomes m t s ('&' :: x) ∧ m s = none) ∨
      ∃ a old new b r, segments m t = a ++ .swapped old new :: b ∧ '&' :: r <:+ new ∧
        x = r ++ b.flatMap Segment.new := by
  rw [← Text.segments_new] at h
  obtain ⟨a, seg, b, r, hSegs, hr, hne, hText⟩ :=
    Text.exists_of_suffix_new h (List.cons_ne_nil _ _)
  obtain ⟨d, r, rfl⟩ := List.exists_cons_of_ne_nil hne
  rw [List.cons_append, List.cons.injEq] at hText
  obtain ⟨rfl, rfl⟩ := hText
  cases seg with
  | kept c =>
    obtain ⟨rfl, rfl⟩ : '&' = c ∧ r = [] := by
      rcases List.suffix_cons_iff.mp hr with hHere | hLater
      · exact List.cons.inj hHere
      · exact absurd (List.suffix_nil.mp hLater) (List.cons_ne_nil _ _)
    exact .inl ⟨'&' :: b.flatMap Segment.old, ⟨a, .kept '&' :: b, hSegs, rfl, rfl⟩,
      Text.eq_none_of_kept hm hSegs⟩
  | swapped old new => exact .inr ⟨a, old, new, b, r, hSegs, hr, rfl⟩

/-- If no ampersand is put in, it was kept. -/
theorem exists_becomes (hPlain : Swaps m fun _ new => '&' ∉ new)
    (h : '&' :: x <:+ (replaceEach m t).1) : ∃ s, Becomes m t s ('&' :: x) ∧ m s = none := by
  rcases becomes_or_exists_swapped hm h with hKept | ⟨a, old, new, b, r, hSegs, hr, -⟩
  · exact hKept
  · have hMem : .swapped old new ∈ segments m t := by rw [hSegs]; simp
    exact absurd (hr.subset (List.mem_cons_self ..)) (Text.swapped_of_mem_segments hPlain hMem).2

/-- An encoded script that was not put in was there before. -/
theorem Becomes.encodedScript? (h : Becomes m t s s')
    (hScript : encodedScript? s' ≠ none) : encodedScript? s ≠ none := by
  obtain ⟨w, x, rfl, hLead, hHead, hQuote⟩ := encodedScript?_ne_none_iff.mp hScript
  obtain ⟨y, rfl, hy⟩ := h.exists_append hm hLead.lt_not_mem
  exact encodedScript?_ne_none_iff.mpr
    ⟨w, y, rfl, hLead, fun hFirst => hHead (hy.head?_eq_quote hm hFirst), hy.quote_mem hm hQuote⟩

/-- So was an encoded title. -/
theorem Becomes.encodedTitle? (h : Becomes m t s s') (hTitle : encodedTitle? s' ≠ none) :
    encodedTitle? s ≠ none := by
  obtain ⟨w, c, x, rfl, hLead, hc⟩ := encodedTitle?_ne_none_iff.mp hTitle
  have hBehind : '<' ∉ w ++ [c] := by
    have : c ≠ '<' := by
      rintro rfl
      exact absurd hc (by decide)
    simpa using ⟨hLead.lt_not_mem, this.symm⟩
  rw [show w ++ c :: x = w ++ [c] ++ x by simp] at h
  obtain ⟨y, rfl, -⟩ := h.exists_append hm hBehind
  exact encodedTitle?_ne_none_iff.mpr ⟨w, c, y, by simp, hLead, hc⟩

theorem exists_ampersand_of_ne_none (h : m s ≠ none) : ∃ x, s = '&' :: x := by
  obtain ⟨⟨new, rest⟩, hFound⟩ := Option.ne_none_iff_exists'.mp h
  obtain ⟨old, rfl, -, ⟨x, rfl⟩, -, -, -⟩ := hm hFound
  exact ⟨x ++ rest, rfl⟩

end Becomes

theorem plain_title : Swaps encodedTitle? fun _ new => '&' ∉ new :=
  swaps_encodedTitle?.mono fun old new ⟨a, title, b, _, _, hPlain, hNew⟩ => by
    rw [hNew]
    simp [hPlain]

theorem plain_tag : Swaps encodedTag? fun _ new => '&' ∉ new :=
  swaps_encodedTag?.mono fun old new ⟨inner, hPlain, _, hNew⟩ => by
    rw [hNew]
    simp [hPlain]

/-- The end `s` of the restored page, what stood there before the other tags were restored,
and what stood there before the titles were. -/
structure Traces (page s₁ s₂ s : Text) : Prop where
  titles : Becomes encodedTitle? (withScripts page) s₁ s₂
  tags : Becomes encodedTag? (withTitles page) s₂ s

/-- An ampersand in the restored page was there before, and neither a title nor another tag
was found at it. -/
theorem exists_traces (h : '&' :: x <:+ (restoreMarkup page).1) :
    ∃ y₁ y₂, Traces page ('&' :: y₁) ('&' :: y₂) ('&' :: x) ∧
      encodedTitle? ('&' :: y₁) = none ∧ encodedTag? ('&' :: y₂) = none := by
  have hKept {m : Text → Option (Text × Text)} (hm : Swaps m Restored) {t s x : Text}
      (hs : Becomes m t s ('&' :: x)) : ∃ y, s = '&' :: y := by
    obtain ⟨y, hy, -⟩ := hs.exists_append (w := ['&']) hm (by decide)
    exact ⟨y, hy⟩
  rw [restoreMarkup_eq] at h
  obtain ⟨s₂, hTags, hTag⟩ := exists_becomes restored_tag plain_tag h
  obtain ⟨y₂, rfl⟩ := hKept restored_tag hTags
  obtain ⟨s₁, hTitles, hTitle⟩ :=
    exists_becomes restored_title plain_title (hTags.suffix restored_tag)
  obtain ⟨y₁, rfl⟩ := hKept restored_title hTitles
  exact ⟨y₁, y₂, ⟨hTitles, hTags⟩, hTitle, hTag⟩

-- ---------------------------------------------------------------------------
-- What is left
-- ---------------------------------------------------------------------------

/-- No encoded titles are left. -/
theorem encodedTitle?_eq_none_of_suffix (h : s <:+ (restoreMarkup page).1) :
    encodedTitle? s = none := by
  by_contra hTitle
  obtain ⟨x, rfl⟩ := exists_ampersand_of_ne_none restored_title hTitle
  obtain ⟨y₁, y₂, hTraces, hNone, -⟩ := exists_traces h
  exact (hTraces.titles.encodedTitle? restored_title
    (hTraces.tags.encodedTitle? restored_tag hTitle)) hNone

/-- The text is the end of the page with its scripts restored, and begins within an address. -/
def InAddress (page s : Text) : Prop :=
  ∃ a old url v b, segments encodedScript? page =
      a ++ .swapped old ("<script src=\"".toList ++ url ++ "\"></script>".toList) :: b ∧
    v <:+ url ∧ v ≠ [] ∧ s = v ++ "\"></script>".toList ++ b.flatMap Segment.new

/-- Within an address that was put in, an encoded script begins in the restored page. -/
def LeavesScript (page : Text) : Prop :=
  ∃ s₁ s₂ s, InAddress page s₁ ∧ Traces page s₁ s₂ s ∧ encodedScript? s ≠ none

/-- An ampersand that is put in with a script is one of its address. -/
theorem inAddress_of_swapped {a b : List Segment} {old new r : Text}
    (hSegs : segments encodedScript? page = a ++ .swapped old new :: b) (hr : '&' :: r <:+ new) :
    InAddress page ('&' :: r ++ b.flatMap Segment.new) := by
  have hMem : .swapped old new ∈ segments encodedScript? page := by rw [hSegs]; simp
  obtain ⟨-, -, url, -, -, rfl⟩ := Text.swapped_of_mem_segments swaps_encodedScript? hMem
  have hNot {u : Text} (hu : '&' ∉ u) : ¬ '&' :: r <:+ u :=
    fun h => hu (h.subset (List.mem_cons_self ..))
  rcases Text.suffix_append_iff.mp hr with hEnd | ⟨q, hq, hText⟩
  · exact absurd hEnd (hNot (by decide))
  obtain ⟨d, v, rfl⟩ : ∃ d v, q = d :: v := by
    refine List.exists_cons_of_ne_nil ?_
    rintro rfl
    simp at hText
  refine ⟨a, old, url, d :: v, b, hSegs, ?_, List.cons_ne_nil d v, by rw [hText]⟩
  rcases Text.suffix_append_iff.mp hq with hHere | ⟨p, hp, hLead⟩
  · exact hHere
  · cases p with
    | nil => exact hLead ▸ List.suffix_refl _
    | cons e p =>
      rw [List.cons_append, List.cons.injEq] at hText hLead
      have hAmpersand : '&' ∈ "<script src=\"".toList :=
        hp.subset (hText.1.trans hLead.1 ▸ List.mem_cons_self ..)
      exact absurd hAmpersand (by decide)

/-- An encoded script is left only within an address. -/
theorem leavesScript_of_suffix (h : s <:+ (restoreMarkup page).1)
    (hScript : encodedScript? s ≠ none) : LeavesScript page := by
  obtain ⟨x, rfl⟩ := exists_ampersand_of_ne_none restored_script hScript
  obtain ⟨y₁, y₂, hTraces, -, -⟩ := exists_traces h
  have hBefore := hTraces.titles.encodedScript? restored_title
    (hTraces.tags.encodedScript? restored_tag hScript)
  rcases becomes_or_exists_swapped restored_script (hTraces.titles.suffix restored_title) with
    ⟨s₀, hKept, hNone⟩ | ⟨a, old, new, b, r, hSegs, hr, rfl⟩
  · exact absurd hNone (hKept.encodedScript? restored_script hBefore)
  · exact ⟨_, _, _, inAddress_of_swapped hSegs hr, hTraces, hScript⟩

/-- Around a tag that was put in, there is an encoded tag in the restored page. -/
def LeavesTag (page : Text) : Prop :=
  ∃ a b c old new outer, segments encodedTag? (withTitles page) = a ++ b ++ c ∧
    .swapped old new ∈ b ∧
    encodedTag? ((b ++ c).flatMap Segment.new) = some (outer, c.flatMap Segment.new)

/-- No match runs over the end of an encoded tag that is left: its last characters were
there before. -/
theorem exists_becomes_behindTag {rest : Text}
    (h : "&gt;".toList ++ rest <:+ (restoreMarkup page).1) :
    ∃ y, Becomes encodedTag? (withTitles page) y rest := by
  obtain ⟨s, hs, -⟩ := exists_becomes restored_tag plain_tag h
  obtain ⟨y, -, hy⟩ := hs.exists_append (w := "&gt;".toList) restored_tag (by decide)
  exact ⟨y, hy⟩

/-- An encoded tag is left only around another tag. -/
theorem leavesTag_of_suffix (h : s <:+ (restoreMarkup page).1) (hTag : encodedTag? s ≠ none) :
    LeavesTag page := by
  obtain ⟨x, rfl⟩ := exists_ampersand_of_ne_none restored_tag hTag
  obtain ⟨y₁, y₂, hTraces, -, hNone⟩ := exists_traces h
  obtain ⟨⟨outer, rest⟩, hFound⟩ := Option.ne_none_iff_exists'.mp hTag
  obtain ⟨tag, hText, hne, inner, -, hTagText, -⟩ := swaps_encodedTag? hFound
  have hAlways (r : Text) : encodedTag? (tag ++ r) = some (outer, r) := by
    obtain ⟨same, hSame, hLocal⟩ := local_encodedTag? hFound
    obtain rfl : tag = same := List.append_cancel_right (hText.symm.trans hSame)
    exact hLocal r
  obtain ⟨y, hBehind⟩ : ∃ y, Becomes encodedTag? (withTitles page) y rest := by
    refine exists_becomes_behindTag (List.IsSuffix.trans ?_ h)
    rw [hText, hTagText, List.append_assoc _ "&gt;".toList]
    exact List.suffix_append _ _
  obtain ⟨a, b, c, hSegs, hOld, hNew, rfl⟩ := (hText ▸ hTraces.tags).exists_between hne hBehind
  obtain ⟨old, new, hMem⟩ : ∃ old new, .swapped old new ∈ b := by
    by_contra hNo
    -- then the tag was there before as it is, and would have been found
    have hSame : b.flatMap Segment.new = b.flatMap Segment.old :=
      Text.new_eq_old fun old new hMem => hNo ⟨old, new, hMem⟩
    rw [← hOld, List.flatMap_append, ← hSame, hNew, hAlways] at hNone
    simp at hNone
  refine ⟨a, b, c, old, new, outer, hSegs, hMem, ?_⟩
  rw [List.flatMap_append, hNew, hAlways]

/-- **Restoring twice**: the restored page stays as it is exactly if no encoded script begins
within an address that was put in, and no encoded tag is left around a tag that was put in. -/
theorem restoreMarkup_restored_iff (page : Text) :
    restoreMarkup (restoreMarkup page).1 = ((restoreMarkup page).1, 0) ↔
      ¬ LeavesScript page ∧ ¬ LeavesTag page := by
  rw [restoreMarkup_eq_self_iff]
  constructor
  · intro h
    refine ⟨?_, ?_⟩
    · rintro ⟨s₁, s₂, s, -, hTraces, hScript⟩
      obtain ⟨x, rfl⟩ := exists_ampersand_of_ne_none restored_script hScript
      exact hScript (h _ hTraces.tags.new_suffix (List.cons_ne_nil _ _)).1
    · rintro ⟨a, b, c, old, new, outer, hSegs, -, hFound⟩
      have hTag : encodedTag? ((b ++ c).flatMap Segment.new) ≠ none := by rw [hFound]; simp
      have hBecomes : Becomes encodedTag? (withTitles page) ((b ++ c).flatMap Segment.old)
          ((b ++ c).flatMap Segment.new) :=
        ⟨a, b ++ c, by rw [hSegs, List.append_assoc], rfl, rfl⟩
      obtain ⟨x, hx⟩ := exists_ampersand_of_ne_none restored_tag hTag
      exact hTag (h _ hBecomes.new_suffix (by rw [hx]; exact List.cons_ne_nil _ _)).2.2
  · rintro ⟨hNoScript, hNoTag⟩ s hs -
    refine ⟨?_, encodedTitle?_eq_none_of_suffix hs, ?_⟩
    · by_contra hScript
      exact hNoScript (leavesScript_of_suffix hs hScript)
    · by_contra hTag
      exact hNoTag (leavesTag_of_suffix hs hTag)

/-- An encoded tag around another. -/
def nestedTags : Text := "&lt;meta &lt;meta&gt;&gt;".toList

/-- The second restoration finds the outer one of two tags. -/
theorem restoreMarkup_not_idempotent :
    ¬ ∀ page, restoreMarkup (restoreMarkup page).1 = ((restoreMarkup page).1, 0) := by
  intro h
  exact absurd (h nestedTags) (by decide +kernel)

/-- With the quote that ends its address, a restored script brings an encoded one. -/
example : let page := "&lt;script src=\"a&lt;src=\"&gt; \"b\"".toList
    (restoreMarkup page).1 = "<script src=\"a&lt;src=\"></script> \"b\"".toList ∧
      (restoreMarkup (restoreMarkup page).1).2 = 1 := by
  decide +kernel

end Document

end SketchRepair
