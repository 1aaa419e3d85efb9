import Mathlib.Data.List.TakeWhile
import SketchRepair.Document.BareStyle
import SketchRepair.Proofs.Text.Occurrence

/-!
# SketchRepair — where wrapped rules stood

Both ways of wrapping bare CSS take a page apart into what stands before the rules,
the rules, and what stands behind. They lose nothing in doing so: what is put together
again is the page with a style element around the rules, in their place or at another
one, and without line ends at their two ends.

* `nextRegion?_eq`, `standalone?_eq` — the page around rules that are found;
* `exists_of_wrapStandalone?` — a page whose rules were moved;
* `wrapBareStyle_cases` — when rules are moved;
* `count_wrapBareStyle` — wrapping adds the two tags of every style element.
-/

namespace SketchRepair

namespace Document

variable {t css page : Text}

-- ---------------------------------------------------------------------------
-- Rules behind a tag of the head
-- ---------------------------------------------------------------------------

theorem regionRest_prefix (t : Text) : regionRest t <+: t := by
  induction t with
  | nil => exact List.nil_prefix
  | cons c t ih =>
    rw [regionRest]
    split
    · exact List.nil_prefix
    · exact List.cons_prefix_cons.mpr ⟨rfl, ih⟩

theorem prefix_of_ruleBody? {rule : Text} (h : ruleBody? t = some rule) : rule <+: t := by
  cases t with
  | nil => simp [ruleBody?] at h
  | cons c t =>
    rw [ruleBody?] at h
    split at h
    · simp at h
    · next body rest hBody =>
      split at h
      · simp at h
      · obtain ⟨rfl, -⟩ := Text.upTo?_eq_some.mp hBody
        obtain rfl := Option.some.inj h
        exact ⟨rest, by simp⟩

/-- What is taken for a region stands there. -/
theorem prefix_of_bodyRegion? (h : bodyRegion? t = some css) : css <+: t := by
  rw [bodyRegion?] at h
  split at h
  · simp at h
  · next r hBody =>
    dsimp only at h
    split at h
    · next s hGap =>
      obtain ⟨rule, hRule, rfl⟩ := Option.map_eq_some_iff.mp h
      obtain ⟨u, rfl⟩ := prefix_of_ruleBody? hRule
      obtain ⟨v, hv⟩ := regionRest_prefix ((rule ++ u).drop rule.length)
      have hText := Text.takeWhile_append_drop isBlank r
      rw [hGap] at hText
      generalize r.takeWhile isBlank = gap at hText
      rw [List.drop_left] at hv ⊢
      refine ⟨v, ?_⟩
      rw [Text.after?_eq_some.mp hBody, ← hText]
      simp only [List.append_assoc, List.cons_append, List.nil_append, hv]
    · simp at h

theorem Anchor.suffix_of_after? {a : Anchor} {rest : Text} (h : a.after? t = some rest) :
    rest <:+ t := by
  have hAfter {p t rest : Text} (h : Text.after? p t = some rest) : rest <:+ t :=
    ⟨p, (Text.after?_eq_some.mp h).symm⟩
  cases a with
  | scriptEnd => exact hAfter h
  | titleEnd => exact hAfter h
  | headTag => exact hAfter h
  | metaTag =>
    rw [Anchor.after?] at h
    split at h
    · simp at h
    · next r hMeta =>
      obtain ⟨⟨inner, s⟩, hInner, rfl⟩ := Option.map_eq_some_iff.mp h
      obtain ⟨rfl, -⟩ := Text.upTo?_eq_some.mp hInner
      exact (List.suffix_append_of_suffix (List.suffix_cons _ _)).trans (hAfter hMeta)

theorem Anchor.exists_of_region? {a : Anchor} {lead : Text} (h : a.region? t = some (lead, css)) :
    ∃ rest, t = lead ++ css ++ rest := by
  rw [Anchor.region?] at h
  split at h
  · simp at h
  · next r hAfter =>
    obtain ⟨css', hCss, he⟩ := Option.map_eq_some_iff.mp h
    obtain ⟨rfl, rfl⟩ := Prod.mk.inj he
    obtain ⟨rest, hRest⟩ := prefix_of_bodyRegion? hCss
    obtain ⟨front, rfl⟩ := (List.dropWhile_suffix isBlank).trans (Anchor.suffix_of_after? hAfter)
    refine ⟨rest, ?_⟩
    rw [List.append_assoc, hRest, List.length_append, Nat.add_sub_cancel, List.take_left]

theorem anchored?_eq {a : Anchor} {before behind : Text}
    (h : anchored? a page = some (before, css, behind)) : page = before ++ css ++ behind := by
  rw [anchored?] at h
  obtain ⟨⟨front, lead, css'⟩, hFound, he⟩ := Option.map_eq_some_iff.mp h
  obtain ⟨rfl, rfl, rfl⟩ : front ++ lead = before ∧ css' = css ∧
      page.drop ((front ++ lead).length + css'.length) = behind := by simpa using he
  obtain ⟨u, rfl, hRegion⟩ := Text.search_eq_some hFound
  obtain ⟨rest, rfl⟩ := Anchor.exists_of_region? hRegion
  rw [← List.length_append, ← List.append_assoc, ← List.append_assoc, List.drop_left]

/-- The page around a region that is wrapped. -/
theorem nextRegion?_eq {before behind : Text} (h : nextRegion? page = some (before, css, behind)) :
    page = before ++ css ++ behind := by
  obtain ⟨a, -, ha⟩ := List.exists_of_findSome?_eq_some h
  exact anchored?_eq (Option.filter_eq_some_iff.mp ha).1

-- ---------------------------------------------------------------------------
-- Rules that stand alone
-- ---------------------------------------------------------------------------

/-- A text that is not all taken goes on with the character that stops it. -/
theorem exists_of_takeWhile_ne {c : Char} (h : (t.takeWhile (· ≠ c)).length ≠ t.length) :
    ∃ rest, t.takeWhile (· ≠ c) ++ c :: rest = t := by
  have hText := List.takeWhile_append_dropWhile (p := (· ≠ c)) (l := t)
  cases hRest : t.dropWhile (· ≠ c) with
  | nil =>
    rw [hRest, List.append_nil] at hText
    exact absurd (congrArg List.length hText) h
  | cons d rest =>
    have hHead := List.head?_dropWhile_not (· ≠ c) t
    rw [hRest] at hHead
    obtain rfl : d = c := by simpa using hHead
    exact ⟨rest, hRest ▸ hText⟩

theorem prefix_of_selectorAndRule? {rule : Text} (h : selectorAndRule? t = some rule) :
    rule <+: t := by
  rw [selectorAndRule?] at h
  dsimp only at h
  split at h
  · next s hSelector =>
    split at h
    · simp at h
    · next hClosed =>
      obtain rfl := Option.some.inj h
      rw [not_or] at hClosed
      have hText := Text.takeWhile_append_drop isSelectorRest t
      obtain ⟨rest, hRest⟩ := exists_of_takeWhile_ne hClosed.2
      refine ⟨rest, ?_⟩
      conv_rhs => rw [← hText, hSelector, ← hRest]
      simp only [List.append_assoc, List.cons_append, List.nil_append]
  · simp at h

theorem furtherRules_prefix (n : Nat) : ∀ t : Text, furtherRules n t <+: t := by
  induction n with
  | zero => exact fun _ => List.nil_prefix
  | succ n ih =>
    intro t
    rw [furtherRules]
    dsimp only
    split
    · next c r hGap =>
      split
      · split
        · next rule hRule =>
          obtain ⟨u, rfl⟩ := prefix_of_selectorAndRule? hRule
          have hText := Text.takeWhile_append_drop isBlank t
          rw [hGap] at hText
          generalize t.takeWhile isBlank = gap at hText
          obtain ⟨v, hv⟩ := ih (t.drop (gap ++ [c] ++ rule).length)
          refine ⟨v, ?_⟩
          rw [List.append_assoc, hv]
          exact List.prefix_iff_eq_append.mp ⟨u, by rw [← hText]; simp⟩
        · exact List.nil_prefix
      · exact List.nil_prefix
    · exact List.nil_prefix

theorem prefix_of_leadSelector? {lead : Text} (h : leadSelector? t = some lead) : lead <+: t := by
  unfold leadSelector? at h
  split at h
  · obtain rfl := Option.some.inj h
    exact List.take_prefix 4 t
  · split at h
    · dsimp only at h
      split at h
      · obtain rfl := Option.some.inj h
        exact List.cons_prefix_cons.mpr ⟨rfl, List.takeWhile_prefix _⟩
      · simp at h
    · simp at h

/-- What is taken for a set of rules stands there. -/
theorem prefix_of_ruleSet? (h : ruleSet? t = some css) : css <+: t := by
  rw [ruleSet?] at h
  dsimp only at h
  split at h
  · simp at h
  · next lead hLead =>
    obtain ⟨rule, hRule, rfl⟩ := Option.map_eq_some_iff.mp h
    have hText := Text.takeWhile_append_drop isBlank t
    generalize t.takeWhile isBlank = gap at *
    have hWhole : gap ++ lead ++ rule <+: t := by
      obtain ⟨u, hu⟩ := prefix_of_leadSelector? hLead
      obtain ⟨v, hv⟩ := prefix_of_selectorAndRule? hRule
      rw [← List.drop_drop, ← hu, List.drop_left] at hv
      exact ⟨v, by rw [← hText, ← hu, ← hv]; simp⟩
    obtain ⟨w, hw⟩ := furtherRules_prefix t.length (t.drop (gap ++ lead ++ rule).length)
    exact ⟨w, by rw [List.append_assoc, hw, List.prefix_iff_eq_append.mp hWhole]⟩

/-- The page around rules that stand alone, at its beginning or behind a line end. -/
theorem standalone?_eq {before behind : Text} (h : standalone? page = some (before, css, behind)) :
    page = before ++ css ++ behind ∧ ∀ c ∈ before.getLast?, isLineEnd c = true := by
  rw [standalone?] at h
  split at h
  · next css' hHere =>
    obtain ⟨rfl, rfl, rfl⟩ : [] = before ∧ css' = css ∧ page.drop css'.length = behind := by
      simpa using h
    exact ⟨(List.prefix_iff_eq_append.mp (prefix_of_ruleSet? hHere)).symm, by simp⟩
  · obtain ⟨⟨front, lead, css'⟩, hFound, he⟩ := Option.map_eq_some_iff.mp h
    obtain ⟨rfl, rfl, rfl⟩ : front ++ lead = before ∧ css' = css ∧
        page.drop ((front ++ lead).length + css'.length) = behind := by simpa using he
    obtain ⟨u, rfl, hLine⟩ := Text.search_eq_some hFound
    cases u with
    | nil => simp [ruleSetBehindLine?] at hLine
    | cons c u =>
      rw [ruleSetBehindLine?] at hLine
      split at hLine
      · next hEnd =>
        obtain ⟨css'', hSet, he⟩ := Option.map_eq_some_iff.mp hLine
        obtain ⟨rfl, rfl⟩ := Prod.mk.inj he
        obtain ⟨rest, rfl⟩ := prefix_of_ruleSet? hSet
        refine ⟨?_, ?_⟩
        · rw [← List.length_append,
            show front ++ c :: (css'' ++ rest) = front ++ [c] ++ css'' ++ rest by simp,
            List.drop_left]
        · intro d hd
          rw [List.getLast?_concat, Option.mem_some_iff] at hd
          subst hd
          rcases hEnd with rfl | rfl <;> rfl
      · simp at hLine

-- ---------------------------------------------------------------------------
-- Moving rules
-- ---------------------------------------------------------------------------

/-- Where rules that stood between two texts are put, as an offset in the page without
them: before the end of the head, or before the body, or where they stood. -/
def insertionPlace (before behind : Text) : Nat :=
  match Text.cut? "</head>".toList (before ++ behind) with
  | some (front, _) => front.length
  | none =>
    match Text.cut? "<body".toList (before ++ behind) with
    | some (front, _) => front.length
    | none => before.length

/-- What is put there: a style element, and a line end if a tag follows. -/
def IsInserted (css inserted : Text) : Prop :=
  inserted = styleElement (trimLineEnds css) ∨
    inserted = styleElement (trimLineEnds css) ++ ['\n']

/-- A page whose rules were moved is the page without them, with a style element put
in. -/
theorem exists_of_wrapStandalone? {moved : Text} (h : wrapStandalone? page = some moved) :
    ∃ before css behind a b inserted, standalone? page = some (before, css, behind) ∧
      Stylesheet.isLikely css = true ∧ before ++ behind = a ++ b ∧
        a.length = insertionPlace before behind ∧ IsInserted css inserted ∧
          moved = a ++ inserted ++ b := by
  rw [wrapStandalone?] at h
  split at h
  · simp at h
  · next before css behind hFound =>
    split at h
    · next hLikely =>
      refine ⟨before, css, behind, ?_⟩
      have hText {p rest front : Text}
          (hCut : Text.cut? p (before ++ behind) = some (front, rest)) :
          before ++ behind = front ++ (p ++ rest) := by
        rw [Text.cut?_eq_some hCut, List.append_assoc]
      rw [insertionPlace]
      dsimp only at h
      cases hHead : Text.cut? "</head>".toList (before ++ behind) with
      | some cut =>
        obtain ⟨front, rest⟩ := cut
        rw [if_pos (Text.has_of_cut? hHead), Text.replaceFirst, hHead] at h
        refine ⟨front, _, styleElement (trimLineEnds css) ++ ['\n'], hFound, hLikely,
          hText hHead, rfl, .inr rfl, ?_⟩
        rw [← Option.some.inj h]
        simp
      | none =>
        rw [if_neg (Text.not_has_of_cut? hHead)] at h
        cases hBody : Text.cut? "<body".toList (before ++ behind) with
        | some cut =>
          obtain ⟨front, rest⟩ := cut
          rw [if_pos (Text.has_of_cut? hBody), Text.replaceFirst, hBody] at h
          refine ⟨front, _, styleElement (trimLineEnds css) ++ ['\n'], hFound, hLikely,
            hText hBody, rfl, .inr rfl, ?_⟩
          rw [← Option.some.inj h]
          simp
        | none =>
          rw [if_neg (Text.not_has_of_cut? hBody)] at h
          exact ⟨before, behind, styleElement (trimLineEnds css), hFound, hLikely, rfl, rfl,
            .inl rfl, (Option.some.inj h).symm⟩
    · simp at h

-- ---------------------------------------------------------------------------
-- Wrapping
-- ---------------------------------------------------------------------------

/-- Where no region is wrapped, the page stays as it is. -/
theorem wrapRegions_eq_of_none {limit : Nat} (h : (wrapRegions limit page).2 = 0) :
    (wrapRegions limit page).1 = page := by
  cases limit with
  | zero => rfl
  | succ limit =>
    rw [wrapRegions] at h ⊢
    split
    · rfl
    · next hNext =>
      rw [hNext] at h
      exact absurd h (Nat.succ_ne_zero _)

/-- Rules are moved only in a page without style elements in which no region was wrapped. -/
theorem wrapBareStyle_cases (limit : Nat) (page : Text) :
    wrapBareStyle limit page = wrapRegions limit page ∨
      ((wrapRegions limit page).2 = 0 ∧ hasStyleTag page = false ∧
        ∃ moved, wrapStandalone? page = some moved ∧ wrapBareStyle limit page = (moved, 1)) := by
  rw [wrapBareStyle]
  dsimp only
  split
  · next hNone =>
    obtain ⟨hNumber, hStyle⟩ := hNone
    rw [wrapRegions_eq_of_none hNumber] at hStyle ⊢
    cases hMoved : wrapStandalone? page with
    | some moved => exact .inr ⟨hNumber, by simpa using hStyle, moved, rfl, rfl⟩
    | none => exact .inl (Prod.ext (wrapRegions_eq_of_none hNumber).symm hNumber.symm)
  · exact .inl rfl

-- ---------------------------------------------------------------------------
-- Tags
-- ---------------------------------------------------------------------------

theorem count_styleElement (css : Text) : (styleElement css).count '<' = css.count '<' + 2 := by
  have hOpening : "<style>\n".toList.count '<' = 1 := by decide
  have hClosing : "\n</style>".toList.count '<' = 1 := by decide
  unfold styleElement
  simp only [List.count_append, hOpening, hClosing]
  omega

/-- What trimming takes off are line ends. -/
theorem exists_lineEnds_trimLineEnds (t : Text) : ∃ before behind,
    (∀ c ∈ before, isLineEnd c = true) ∧ (∀ c ∈ behind, isLineEnd c = true) ∧
      t = before ++ trimLineEnds t ++ behind := by
  refine ⟨t.takeWhile isLineEnd, ((t.dropWhile isLineEnd).reverse.takeWhile isLineEnd).reverse,
    fun c hc => List.mem_takeWhile_imp hc, ?_, ?_⟩
  · intro c hc
    exact List.mem_takeWhile_imp (List.mem_reverse.mp hc)
  · rw [trimLineEnds, List.append_assoc, ← List.reverse_append, List.takeWhile_append_dropWhile,
      List.reverse_reverse, List.takeWhile_append_dropWhile]

theorem count_trimLineEnds (t : Text) : (trimLineEnds t).count '<' = t.count '<' := by
  obtain ⟨before, behind, hBefore, hBehind, ht⟩ := exists_lineEnds_trimLineEnds t
  have hNone {u : Text} (h : ∀ c ∈ u, isLineEnd c = true) : u.count '<' = 0 :=
    List.count_eq_zero_of_not_mem fun hMem => absurd (h '<' hMem) (by decide)
  conv_rhs => rw [ht, List.count_append, List.count_append, hNone hBefore, hNone hBehind]
  omega

theorem count_wrapRegions (limit : Nat) : ∀ page : Text,
    (wrapRegions limit page).1.count '<' = page.count '<' + 2 * (wrapRegions limit page).2 := by
  induction limit with
  | zero => exact fun _ => rfl
  | succ limit ih =>
    intro page
    rw [wrapRegions]
    split
    · rfl
    · next before css behind hNext =>
      have hRest := ih (before ++ styleElement css ++ behind)
      have hPage := congrArg (List.count '<') (nextRegion?_eq hNext)
      rw [List.count_append, List.count_append] at hPage
      rw [List.count_append, List.count_append, count_styleElement] at hRest
      dsimp only
      omega

/-- Every wrapping adds two tags. -/
theorem count_wrapBareStyle (limit : Nat) (page : Text) :
    (wrapBareStyle limit page).1.count '<' =
      page.count '<' + 2 * (wrapBareStyle limit page).2 := by
  rcases wrapBareStyle_cases limit page with hSame | ⟨-, -, moved, hMoved, hSame⟩
  · rw [hSame]
    exact count_wrapRegions limit page
  · obtain ⟨before, css, behind, a, b, inserted, hFound, -, hRemaining, -, hInserted, rfl⟩ :=
      exists_of_wrapStandalone? hMoved
    have hWrapped := congrArg (List.count '<') (standalone?_eq hFound).1
    have hRemaining := congrArg (List.count '<') hRemaining
    have hTags : inserted.count '<' = css.count '<' + 2 := by
      rcases hInserted with rfl | rfl
      · rw [count_styleElement, count_trimLineEnds]
      · rw [List.count_append, count_styleElement, count_trimLineEnds]
        rfl
    rw [hSame]
    simp only [List.count_append] at hWrapped hRemaining ⊢
    omega

end Document

end SketchRepair
