import SketchRepair.Proofs.Document.BareStyle

/-!
# SketchRepair — where a region of bare rules can be

A region begins behind a tag, blanks aside, and ends before the next one, so no tag begins
in it. Once it has been wrapped, a text ends with a tag before the style element, no tag
begins between the two tags of it, and these two are no tags behind which rules are looked
for. So a region that is found later keeps out of it: it is found before the style element
or behind it, and does not reach over its border.

* `Region` — what is known of a region and the texts around it;
* `region_of_nextRegion?` — what is wrapped next is one;
* `EndsTag`, `TagFree` — what is known of the text before a region, and of the region;
* `Region.before_or_behind` — **a region keeps out of style elements**.
-/

namespace SketchRepair

namespace Document

variable {before css behind page t u x y rules : Text}

-- ---------------------------------------------------------------------------
-- Tags
-- ---------------------------------------------------------------------------

/-- Does a tag begin here? -/
def beginsTag : Text → Bool
  | '<' :: '/' :: c :: _ => isWord c
  | '<' :: c :: _ => isWord c
  | _ => false

theorem beginsTag_iff : beginsTag t = true ↔
    ∃ c r, isWord c = true ∧ (t = '<' :: c :: r ∨ t = '<' :: '/' :: c :: r) := by
  constructor
  · intro h
    unfold beginsTag at h
    split at h
    · exact ⟨_, _, h, .inr rfl⟩
    · exact ⟨_, _, h, .inl rfl⟩
    · simp at h
  · rintro ⟨c, r, hWord, rfl | rfl⟩
    · unfold beginsTag
      split
      · next hText =>
        obtain ⟨rfl, -⟩ := List.cons.inj (List.cons.inj hText).2
        exact absurd hWord (by decide)
      · next hText =>
        obtain ⟨rfl, -⟩ := List.cons.inj (List.cons.inj hText).2
        exact hWord
      · next hOther => exact absurd rfl (hOther c r)
    · exact hWord

theorem exists_of_beginsTag (h : beginsTag t = true) : ∃ r, t = '<' :: r := by
  obtain ⟨c, r, -, rfl | rfl⟩ := beginsTag_iff.mp h
  · exact ⟨_, rfl⟩
  · exact ⟨_, rfl⟩

theorem endsRegion_of_beginsTag (h : beginsTag t = true) : endsRegion t = true := by
  obtain ⟨c, r, hWord, rfl | rfl⟩ := beginsTag_iff.mp h
  · have hSlash : c ≠ '/' := by
      rintro rfl
      exact absurd hWord (by decide)
    unfold endsRegion
    split
    all_goals simp_all
  · exact hWord

/-- A tag that begins in a text before a line feed begins there whatever follows. -/
theorem beginsTag_of_break (ht : t ≠ []) (h : beginsTag (t ++ '\n' :: u) = true) (v : Text) :
    beginsTag (t ++ v) = true := by
  have hBreak : isWord '\n' = false := by decide
  obtain ⟨c, r, hWord, hText⟩ := beginsTag_iff.mp h
  have hNot {d : Char} {s s' : Text} (hSame : '\n' :: s = d :: s') (hd : isWord d = true) : False :=
    Bool.false_ne_true (hBreak.symm.trans ((List.cons.inj hSame).1 ▸ hd))
  refine beginsTag_iff.mpr ⟨c, ?_⟩
  obtain ⟨d, t, rfl⟩ := List.exists_cons_of_ne_nil ht
  rw [List.cons_append] at hText ⊢
  -- all of its beginning is before the line feed
  rcases hText with hText | hText
  · obtain ⟨rfl, hBehind⟩ := List.cons_eq_cons.mp hText
    cases t with
    | nil => exact (hNot hBehind hWord).elim
    | cons e t =>
      obtain ⟨rfl, -⟩ := List.cons_eq_cons.mp hBehind
      exact ⟨t ++ v, hWord, .inl rfl⟩
  · obtain ⟨rfl, hBehind⟩ := List.cons_eq_cons.mp hText
    cases t with
    | nil => exact absurd (List.cons_eq_cons.mp hBehind).1 (by decide)
    | cons e t =>
      obtain ⟨rfl, hRest⟩ := List.cons_eq_cons.mp hBehind
      cases t with
      | nil => exact (hNot hRest hWord).elim
      | cons e t =>
        obtain ⟨rfl, -⟩ := List.cons_eq_cons.mp hRest
        exact ⟨t ++ v, hWord, .inr rfl⟩

/-- How the tags begin behind which rules are looked for. -/
def anchorOpeners : List Text :=
  ["</script>".toList, "</title>".toList, "<meta".toList, "<head>".toList]

theorem beginsTag_of_opener {w : Text} (hw : w ∈ anchorOpeners) (h : w <+: t) :
    beginsTag t = true := by
  obtain ⟨r, rfl⟩ := h
  have hWord : ∀ c ∈ ['s', 't', 'm', 'h'], isWord c = true := List.all_eq_true.mp (by decide)
  simp only [anchorOpeners, List.mem_cons, List.not_mem_nil, or_false] at hw
  rcases hw with rfl | rfl | rfl | rfl
  all_goals exact hWord _ (by decide)

-- ---------------------------------------------------------------------------
-- Regions
-- ---------------------------------------------------------------------------

/-- A region of bare rules between two texts: a tag stands before it, blanks aside, and no
tag begins in it. -/
structure Region (before css behind : Text) : Prop where
  anchor : ∃ u lead w blanks, before = u ++ (lead ++ '>' :: blanks) ∧ w ∈ anchorOpeners ∧
    w <+: lead ++ ['>'] ∧ '>' ∉ lead ∧ ∀ c ∈ blanks, isBlank c = true
  body : css.head? = some 'b'
  untagged : ∀ s, s <:+ css → s ≠ [] → beginsTag (s ++ behind) = false

/-- No tag begins before the place at which a region ends. -/
theorem beginsTag_regionRest (t : Text) : ∀ {s}, s <:+ regionRest t → s ≠ [] →
    ∀ {v}, t = regionRest t ++ v → beginsTag (s ++ v) = false := by
  induction t with
  | nil =>
    intro s hs hne
    exact absurd (List.suffix_nil.mp hs) hne
  | cons c t ih =>
    intro s hs hne v hText
    rw [regionRest] at hs hText
    split at hs
    · exact absurd (List.suffix_nil.mp hs) hne
    · next hEnds =>
      rw [if_neg hEnds] at hText
      rcases List.suffix_cons_iff.mp hs with rfl | hs
      · rw [← hText]
        exact Bool.eq_false_iff.mpr fun hTag => hEnds (endsRegion_of_beginsTag hTag)
      · exact ih hs hne (List.cons.inj hText).2

/-- A region begins with a rule for `body`, in which no `<` stands. -/
theorem exists_of_bodyRegion? (h : bodyRegion? t = some css) : ∃ rule rest, t = rule ++ rest ∧
    css = rule ++ regionRest rest ∧ rule.head? = some 'b' ∧ '<' ∉ rule := by
  rw [bodyRegion?] at h
  split at h
  · simp at h
  next r hBody =>
  dsimp only at h
  split at h
  case h_2 => simp at h
  next s hGap =>
  obtain ⟨rule, hRule, rfl⟩ := Option.map_eq_some_iff.mp h
  obtain ⟨u, rfl⟩ := prefix_of_ruleBody? hRule
  have hText := Text.takeWhile_append_drop isBlank r
  rw [hGap] at hText
  have hBlank : ∀ c ∈ r.takeWhile isBlank, isBlank c = true := fun c hc => List.mem_takeWhile_imp hc
  generalize r.takeWhile isBlank = gap at hText hBlank
  have hNone : '<' ∉ rule := by
    cases hs : rule ++ u with
    | nil => simp [(List.append_eq_nil_iff.mp hs).1]
    | cons c s =>
      rw [hs, ruleBody?] at hRule
      split at hRule
      · simp at hRule
      · next body rest hClosed =>
        split at hRule
        · simp at hRule
        · next hPlain =>
          rw [← Option.some.inj hRule]
          simp only [not_or, List.contains_iff_mem] at hPlain
          simp [Ne.symm hPlain.1, hPlain.2]
  refine ⟨"body".toList ++ gap ++ ['{'] ++ rule, u, ?_, ?_, rfl, ?_⟩
  · rw [Text.after?_eq_some.mp hBody, ← hText]
    simp
  · rw [List.drop_left]
  · have hGapNone : '<' ∉ gap := fun hMem => absurd (hBlank _ hMem) (by decide)
    simp [hGapNone, hNone]

/-- The tags behind which rules are looked for end with their first `>`. -/
theorem Anchor.exists_of_after? {a : Anchor} {rest : Text} (h : a.after? t = some rest) :
    ∃ lead w, t = lead ++ '>' :: rest ∧ w ∈ anchorOpeners ∧ w <+: lead ++ ['>'] ∧ '>' ∉ lead := by
  have hSame {lead w : Text} (hw : w = lead ++ ['>']) (h : Text.after? w t = some rest) :
      t = lead ++ '>' :: rest := by
    rw [Text.after?_eq_some.mp h, hw, List.append_assoc]
    rfl
  cases a with
  | scriptEnd =>
    exact ⟨"</script".toList, _, hSame (by decide) h, by decide, List.prefix_refl _, by decide⟩
  | titleEnd =>
    exact ⟨"</title".toList, _, hSame (by decide) h, by decide, List.prefix_refl _, by decide⟩
  | headTag =>
    exact ⟨"<head".toList, _, hSame (by decide) h, by decide, List.prefix_refl _, by decide⟩
  | metaTag =>
    rw [Anchor.after?] at h
    split at h
    · simp at h
    · next r hMeta =>
      obtain ⟨⟨inner, s⟩, hInner, rfl⟩ := Option.map_eq_some_iff.mp h
      obtain ⟨rfl, hNone⟩ := Text.upTo?_eq_some.mp hInner
      refine ⟨"<meta".toList ++ inner, "<meta".toList, ?_, by decide, ?_, ?_⟩
      · rw [Text.after?_eq_some.mp hMeta, List.append_assoc]
      · rw [List.append_assoc]
        exact List.prefix_append ..
      · rw [List.mem_append, not_or]
        exact ⟨by decide, hNone⟩

/-- What is found behind an anchor is a region. -/
theorem region_of_region? {a : Anchor} {front : Text} (h : a.region? t = some (front, css)) :
    ∃ behind, t = front ++ (css ++ behind) ∧ ∀ u, Region (u ++ front) css behind := by
  rw [Anchor.region?] at h
  split at h
  · simp at h
  next r hAfter =>
  obtain ⟨css', hCss, he⟩ := Option.map_eq_some_iff.mp h
  obtain ⟨rfl, rfl⟩ := Prod.mk.inj he
  obtain ⟨lead, w, rfl, hw, hOpens, hNone⟩ := Anchor.exists_of_after? hAfter
  obtain ⟨rule, rest, hRest, rfl, hBody, hPlain⟩ := exists_of_bodyRegion? hCss
  obtain ⟨behind, hBehind⟩ := regionRest_prefix rest
  have hBlank : ∀ c ∈ r.takeWhile isBlank, isBlank c = true := fun c hc => List.mem_takeWhile_imp hc
  have hText := List.takeWhile_append_dropWhile (p := isBlank) (l := r)
  generalize r.takeWhile isBlank = blanks at hBlank hText
  generalize r.dropWhile isBlank = s at hText hRest
  have hFront : (lead ++ '>' :: r).take ((lead ++ '>' :: r).length - s.length) =
      lead ++ '>' :: blanks := by
    have hWhole : lead ++ '>' :: r = lead ++ '>' :: blanks ++ s := by simp [← hText]
    rw [hWhole, List.length_append, Nat.add_sub_cancel, List.take_left]
  rw [hFront]
  refine ⟨behind, ?_, fun u => ⟨⟨u, lead, w, blanks, rfl, hw, hOpens, hNone, hBlank⟩, ?_, ?_⟩⟩
  · rw [← hText, hRest]
    simp [hBehind]
  · rw [List.head?_append, hBody]
    rfl
  · intro s hs hne
    rcases Text.suffix_append_iff.mp hs with hLater | ⟨v, hv, rfl⟩
    · exact beginsTag_regionRest rest hLater hne hBehind.symm
    cases v with
    | nil => exact beginsTag_regionRest rest List.suffix_rfl hne hBehind.symm
    | cons c v =>
      refine Bool.eq_false_iff.mpr fun hTag => ?_
      obtain ⟨r', hHere⟩ := exists_of_beginsTag hTag
      rw [List.cons_append, List.cons_append] at hHere
      obtain ⟨rfl, -⟩ := List.cons_eq_cons.mp hHere
      exact hPlain (hv.subset (List.mem_cons_self ..))

/-- What is wrapped next is a region of the page that looks like CSS. -/
theorem region_of_nextRegion? (h : nextRegion? page = some (before, css, behind)) :
    page = before ++ (css ++ behind) ∧ Region before css behind ∧
      Stylesheet.isLikely css = true := by
  obtain ⟨a, -, ha⟩ := List.exists_of_findSome?_eq_some h
  obtain ⟨hAnchored, hLikely⟩ := Option.filter_eq_some_iff.mp ha
  have hPage := anchored?_eq hAnchored
  rw [List.append_assoc] at hPage
  refine ⟨hPage, ?_, hLikely⟩
  rw [anchored?] at hAnchored
  obtain ⟨⟨u, front, css'⟩, hFound, he⟩ := Option.map_eq_some_iff.mp hAnchored
  obtain ⟨rfl, rfl, -⟩ : u ++ front = before ∧ css' = css ∧ _ := by simpa using he
  obtain ⟨t, ht, hHere⟩ := Text.search_eq_some hFound
  obtain ⟨rest, rfl, hRegion⟩ := region_of_region? hHere
  have hBehind : behind = rest := by
    rw [ht, ← List.append_assoc, List.append_cancel_left_eq, List.append_cancel_left_eq] at hPage
    exact hPage.symm
  exact hBehind ▸ hRegion u

-- ---------------------------------------------------------------------------
-- Style elements
-- ---------------------------------------------------------------------------

/-- The text ends with a tag, blanks aside. -/
def EndsTag (t : Text) : Prop := ∃ u blanks, t = u ++ '>' :: blanks ∧ ∀ c ∈ blanks, isBlank c = true

/-- No tag begins in the text, when a line feed follows. -/
def TagFree (t : Text) : Prop := ∀ s, s <:+ t → s ≠ [] → ∀ u, beginsTag (s ++ '\n' :: u) = false

theorem Region.endsTag (h : Region before css behind) : EndsTag before := by
  obtain ⟨u, lead, w, blanks, hBefore, -, -, -, hBlank⟩ := h.anchor
  exact ⟨u ++ lead, blanks, by rw [hBefore, List.append_assoc], hBlank⟩

theorem Region.tagFree (h : Region before css behind) : TagFree css := by
  intro s hs hne u
  refine Bool.eq_false_iff.mpr fun hTag => ?_
  exact Bool.false_ne_true ((h.untagged s hs hne).symm.trans (beginsTag_of_break hne hTag behind))

theorem EndsTag.append_left (h : EndsTag t) (x : Text) : EndsTag (x ++ t) := by
  obtain ⟨u, blanks, rfl, hBlank⟩ := h
  exact ⟨x ++ u, blanks, (List.append_assoc ..).symm, hBlank⟩

theorem endsTag_styleElement (x rules : Text) : EndsTag (x ++ styleElement rules) := by
  have hClosing : EndsTag "\n</style>".toList :=
    ⟨"\n</style".toList, [], by decide, List.forall_mem_nil _⟩
  exact (hClosing.append_left ("<style>\n".toList ++ rules)).append_left x

/-- What ends with a tag can be exchanged before a text. -/
theorem EndsTag.congr (h : EndsTag (x ++ t)) (hy : EndsTag y) : EndsTag (y ++ t) := by
  obtain ⟨u, blanks, hText, hBlank⟩ := h
  obtain ⟨v, blanks', rfl, hBlank'⟩ := hy
  rcases List.append_eq_append_iff.mp hText with ⟨z, rfl, rfl⟩ | ⟨z, rfl, hz⟩
  · exact ⟨v ++ '>' :: blanks' ++ z, blanks, by simp, hBlank⟩
  · cases z with
    | nil => exact ⟨v ++ '>' :: blanks', blanks, by rw [hz, List.nil_append], hBlank⟩
    | cons c z =>
      -- only blanks are left behind the tag
      obtain ⟨-, rfl⟩ := List.cons_eq_cons.mp hz
      refine ⟨v, blanks' ++ t, by simp, fun c hc => ?_⟩
      rcases List.mem_append.mp hc with hc | hc
      · exact hBlank' c hc
      · exact hBlank c (List.mem_append_right z hc)

-- ---------------------------------------------------------------------------
-- Where a region can be
-- ---------------------------------------------------------------------------

theorem styleElement_ne_nil (rules : Text) : styleElement rules ≠ [] := List.cons_ne_nil '<' _

theorem beginsTag_styleElement (rules u : Text) : beginsTag (styleElement rules ++ u) = true :=
  beginsTag_iff.mpr ⟨'s', _, by decide, .inl rfl⟩

/-- Behind blanks two texts go on alike. -/
theorem eq_of_blanks {a b : Text} {c d : Char} {s r : Text} (ha : ∀ c ∈ a, isBlank c = true)
    (hb : ∀ c ∈ b, isBlank c = true) (hc : isBlank c = false) (hd : isBlank d = false)
    (h : a ++ c :: s = b ++ d :: r) : c = d := by
  have hSolid := congrArg (List.dropWhile isBlank) h
  rw [List.dropWhile_append_of_pos ha, List.dropWhile_append_of_pos hb,
    List.dropWhile_cons_of_neg (by simp [hc]), List.dropWhile_cons_of_neg (by simp [hd])] at hSolid
  exact (List.cons_eq_cons.mp hSolid).1

/-- No tag behind which rules are looked for begins in a style element. -/
theorem not_opener_in_styleElement (hFree : TagFree rules) {w s : Text} (hw : w ∈ anchorOpeners)
    (hs : s <:+ styleElement rules) (hne : s ≠ []) (u : Text) : ¬ w <+: s ++ u := by
  have hClear : ∀ w ∈ anchorOpeners, Text.Clear w "<style>\n".toList ∧
      Text.Clear w "\n</style>".toList := by decide
  obtain ⟨hOpening, hClosing⟩ := hClear w hw
  -- in the rules, before the line feed behind them
  have hRules {q : Text} (hq : q <:+ rules) : ¬ w <+: q ++ "\n</style>".toList ++ u := by
    rcases eq_or_ne q [] with rfl | hq'
    · exact hClosing.not_isPrefix List.suffix_rfl (by decide)
    · intro hHere
      have hTag := beginsTag_of_opener hw hHere
      rw [List.append_assoc] at hTag
      exact Bool.false_ne_true ((hFree q hq hq' _).symm.trans hTag)
  rcases Text.suffix_append_iff.mp hs with hEnd | ⟨q, hq, rfl⟩
  · exact hClosing.not_isPrefix hEnd hne
  rcases Text.suffix_append_iff.mp hq with hInside | ⟨v, hv, rfl⟩
  · exact hRules hInside
  rcases eq_or_ne v [] with rfl | hv'
  · exact hRules List.suffix_rfl
  · rw [List.append_assoc, List.append_assoc]
    exact hOpening.not_isPrefix hv hv'

/-- What begins with no blank, and ends a text that ends with a tag, ends with it itself. -/
theorem EndsTag.of_append (h : EndsTag (u ++ t)) {c : Char} (hHead : t.head? = some c)
    (hSolid : isBlank c = false) : EndsTag t := by
  obtain ⟨v, blanks, hText, hBlank⟩ := h
  rcases List.append_eq_append_iff.mp hText with ⟨z, -, rfl⟩ | ⟨z, -, hz⟩
  · exact ⟨z, blanks, rfl, hBlank⟩
  · cases z with
    | nil => exact ⟨[], blanks, by rw [hz, List.nil_append, List.nil_append], hBlank⟩
    | cons d z =>
      -- then it would be a part of the blanks behind the tag
      obtain ⟨-, rfl⟩ := List.cons_eq_cons.mp hz
      have hMem := List.mem_append_right z (List.mem_of_head? hHead)
      exact absurd (hBlank c hMem) (by simp [hSolid])

/-- A tag that ends with its first `>`, and rules behind it, stand before a style element: so
the tag and the blanks behind it stand before what is between. -/
theorem exists_between {lead blanks z bl s r : Text} (hNone : '>' ∉ lead)
    (hBlank : ∀ c ∈ blanks, isBlank c = true) (hBl : ∀ c ∈ bl, isBlank c = true)
    (hs : s.head? = some 'b') (h : lead ++ '>' :: (blanks ++ s) = z ++ '>' :: (bl ++ '<' :: r)) :
    ∃ v, z ++ '>' :: bl = lead ++ '>' :: blanks ++ v ∧ s = v ++ '<' :: r := by
  obtain ⟨s, rfl⟩ := List.head?_eq_some_iff.mp hs
  -- the tag ends where the text before the style element ends, or before that
  have hSame (hBehind : blanks ++ 'b' :: s = bl ++ '<' :: r) : False :=
    absurd (eq_of_blanks hBlank hBl (by decide) (by decide) hBehind) (by decide)
  rcases List.append_eq_append_iff.mp h with ⟨v, rfl, hv⟩ | ⟨v, hLead, hv⟩
  · cases v with
    | nil => exact (hSame (List.cons_eq_cons.mp hv).2).elim
    | cons c v =>
      rw [List.cons_append] at hv
      obtain ⟨rfl, hBehind⟩ := List.cons_eq_cons.mp hv
      rcases List.append_eq_append_iff.mp hBehind with ⟨w, rfl, hw⟩ | ⟨w, hBlanks, hw⟩
      · exact ⟨w ++ '>' :: bl, by simp, by simp [hw]⟩
      · cases w with
        | nil => exact absurd (List.cons_eq_cons.mp hw).1 (by decide)
        | cons c w =>
          have hMem : '>' ∈ blanks := by
            rw [hBlanks, (List.cons_eq_cons.mp hw).1]
            simp
          exact absurd (hBlank '>' hMem) (by decide)
  · cases v with
    | nil => exact (hSame (List.cons_eq_cons.mp hv).2.symm).elim
    | cons c v =>
      rw [hLead, (List.cons_eq_cons.mp hv).1] at hNone
      simp at hNone

/-- **Where a region can be**: before a style element whose rules were wrapped, or behind it. -/
theorem Region.before_or_behind (h : Region before css behind) (hEnds : EndsTag x)
    (hFree : TagFree rules)
    (hPage : x ++ (styleElement rules ++ y) = before ++ (css ++ behind)) :
    (∃ g, x = before ++ css ++ g) ∨ ∃ g, before = x ++ styleElement rules ++ g := by
  obtain ⟨u, lead, w, blanks, rfl, hw, hOpens, hNone, hBlank⟩ := h.anchor
  have hAround : lead ++ ['>'] <+: lead ++ '>' :: (blanks ++ (css ++ behind)) :=
    ⟨blanks ++ (css ++ behind), by simp⟩
  have hOutside {s : Text} (hs : s <:+ styleElement rules) (hne : s ≠ [])
      (hHere : lead ++ '>' :: (blanks ++ (css ++ behind)) = s ++ y) : False :=
    not_opener_in_styleElement hFree hw hs hne y (hHere ▸ hOpens.trans hAround)
  rw [List.append_assoc, List.append_assoc, List.cons_append] at hPage
  rcases List.append_eq_append_iff.mp hPage with ⟨z, rfl, hz⟩ | ⟨z, rfl, hz⟩
  · -- the tag before the region begins behind `x`, and so behind the style element
    right
    rcases List.append_eq_append_iff.mp hz with ⟨z', rfl, -⟩ | ⟨s, hs, hHere⟩
    · exact ⟨z' ++ (lead ++ '>' :: blanks), by simp⟩
    · rcases eq_or_ne s [] with rfl | hne
      · rw [List.append_nil] at hs
        exact ⟨lead ++ '>' :: blanks, by rw [hs]⟩
      · exact (hOutside ⟨z, hs.symm⟩ hne hHere).elim
  · -- it begins in `x`, and so it ends there
    left
    have hHead : z.head? = some '<' := by
      cases z with
      | nil =>
        rw [List.nil_append] at hz
        exact (hOutside List.suffix_rfl (styleElement_ne_nil rules) hz).elim
      | cons c z =>
        obtain ⟨r, hr⟩ := exists_of_beginsTag (beginsTag_of_opener hw (hOpens.trans hAround))
        rw [hr, List.cons_append] at hz
        rw [List.head?_cons, (List.cons_eq_cons.mp hz).1]
    obtain ⟨z, bl, rfl, hBl⟩ := hEnds.of_append hHead (by decide)
    have hBody : (css ++ behind).head? = some 'b' := by rw [List.head?_append, h.body]; rfl
    obtain ⟨r, hr⟩ := exists_of_beginsTag (beginsTag_styleElement rules y)
    rw [hr, List.append_assoc, List.cons_append] at hz
    obtain ⟨v, hv, hCss⟩ := exists_between hNone hBlank hBl hBody hz
    rw [hv]
    rcases List.append_eq_append_iff.mp hCss with ⟨g, rfl, -⟩ | ⟨s, rfl, hTag⟩
    · exact ⟨g, by simp⟩
    · -- no tag begins in the region
      rcases eq_or_ne s [] with rfl | hne
      · exact ⟨[], by simp⟩
      · have hUntagged := h.untagged s (List.suffix_append v s) hne
        rw [← hTag, ← hr, beginsTag_styleElement] at hUntagged
        simp at hUntagged

end Document

end SketchRepair
