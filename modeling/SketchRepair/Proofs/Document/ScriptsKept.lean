import SketchRepair.Proofs.Document.BareStyle
import SketchRepair.Proofs.Document.Markup
import SketchRepair.Proofs.Document.Outside

/-!
# SketchRepair — scripts that rewriting a page keeps

Restoring encoded markup and wrapping bare CSS look at the text of the whole page, that
of its scripts not excepted: an encoded tag in a string is restored like any other, and
rules in a string are wrapped. What they replace outside of the script elements, they
replace between them, and there the only danger is a new opening script tag that nothing
closes. The elements that replacing brings in are closed; a restored tag need not be, and
what is moved is taken as it is.

* `RestoresOutside`, `WrapsOutside` — the rewrite touches no script element;
* `sublist_scripts_restoreMarkup`, `sublist_scripts_wrapBareStyle` — all contents of
  scripts are still there, in order;
* `scripts_sublist_rewritten` — the two together.
-/

namespace SketchRepair

namespace Document

open Text (Clear Swaps places replaceEach)

variable {page : Text}

/-- The contents of the script elements of a page, in order. -/
def scripts (page : Text) : List Text := (elements .script page).map (·.content)

-- ---------------------------------------------------------------------------
-- Restored scripts and titles
-- ---------------------------------------------------------------------------

/-- A restored script is closed before anything follows. -/
theorem sealed_restoredScript (url : Text) :
    Sealed .script ("<script src=\"".toList ++ url ++ "\"></script>".toList) := by
  intro s hs hne u hOpener
  rcases Text.suffix_append_iff.mp hs with hs | ⟨r, -, rfl⟩
  · exact sealed_of_clear (by decide) s hs hne u hOpener
  · -- the opening tag is over before the quote that ends the address
    rw [List.append_assoc, List.map_append] at hOpener
    have hHere : Tag.script.opener <+: r.map fold := by
      rcases Text.prefix_append_iff.mp hOpener with hHere | ⟨q, hq, he⟩
      · exact hHere
      · cases q with
        | nil => exact ⟨[], by rw [List.append_nil, he, List.append_nil]⟩
        | cons c q =>
          have hc : c = '"' := (List.cons_prefix_cons.mp hq).1
          have hMem : c ∈ Tag.script.opener := by simp [he]
          exact absurd (hc ▸ hMem) (by decide)
    obtain ⟨v, hv⟩ := hHere
    obtain ⟨o, x, rfl, ho, -⟩ := List.map_eq_append_iff.mp hv.symm
    have hText : o ++ x ++ "\"></script>".toList ++ u =
        o ++ (x ++ ['"']) ++ '>' :: ([] ++ "</script>".toList ++ u) := by simp
    rw [hText]
    exact element?_ne_none ho (by decide)

theorem sealed_restoredTitle {title : Text} (h : '<' ∉ title) :
    Sealed .script ("<title>".toList ++ title ++ "</title>".toList) :=
  ((sealed_of_clear (by decide)).append (sealed_of_not_mem h)).append (sealed_of_clear (by decide))

-- ---------------------------------------------------------------------------
-- Restoring markup
-- ---------------------------------------------------------------------------

/-- What is restored stands outside of the script elements, those included that are
restored before it; and a script tag that is restored is closed before the next element. -/
structure RestoresOutside (page : Text) : Prop where
  scripts : ∀ place ∈ places encodedScript? page, Outside .script page place
  titles : ∀ place ∈ places encodedTitle? (withScripts page),
    Outside .script (withScripts page) place
  tags : ∀ place ∈ places encodedTag? (withTitles page), Outside .script (withTitles page) place
  closed : ∀ p ∈ (dissect .script (withTitles page)).1,
    Closed .script (replaceEach encodedTag? p.gap).1

theorem sublist_scripts_restoreMarkup (h : RestoresOutside page) :
    (scripts page).Sublist (scripts (restoreMarkup page).1) := by
  have hScripts : (scripts page).Sublist (scripts (withScripts page)) := by
    refine (regapped_of_sealed swaps_encodedScript? ?_ h.scripts).sublist_contents
    rintro old new ⟨a, url, b, -, rfl⟩
    exact ⟨rfl, sealed_restoredScript url⟩
  have hTitles : (scripts (withScripts page)).Sublist (scripts (withTitles page)) := by
    refine (regapped_of_sealed swaps_encodedTitle? ?_ h.titles).sublist_contents
    rintro old new ⟨a, title, b, -, hTitle, -, rfl⟩
    exact ⟨rfl, sealed_restoredTitle hTitle⟩
  have hTags : (scripts (withTitles page)).Sublist (scripts (restoreMarkup page).1) :=
    (regapped_of_local swaps_encodedTag? local_encodedTag? h.tags h.closed).sublist_contents
  exact (hScripts.trans hTitles).trans hTags

-- ---------------------------------------------------------------------------
-- Wrapping regions
-- ---------------------------------------------------------------------------

section Infix

variable {p x css y : Text}

/-- What does not occur in a text does not occur in its parts. -/
theorem not_infix_parts (h : ¬ p <:+: (x ++ (css ++ y)).map fold) :
    ¬ p <:+: x.map fold ∧ ¬ p <:+: css.map fold ∧ ¬ p <:+: y.map fold := by
  simp only [List.map_append] at h
  refine ⟨fun hx => h ?_, fun hCss => h ?_, fun hy => h ?_⟩
  · exact List.infix_append_of_infix_left hx
  · exact List.infix_append_of_infix_right (List.infix_append_of_infix_left hCss)
  · exact List.infix_append_of_infix_right (List.infix_append_of_infix_right hy)

-- The two frames are variables: rewriting under literals would compute with them.
theorem not_infix_framed {a b : Text} (ha : Clear p (a.map fold)) (hb : Clear p (b.map fold))
    (hx : ¬ p <:+: x.map fold) (hCss : ¬ p <:+: css.map fold) (hy : ¬ p <:+: y.map fold) :
    ¬ p <:+: (x ++ (a ++ css ++ b ++ y)).map fold := by
  intro hInfix
  simp only [List.map_append, List.append_assoc] at hInfix
  rcases ha.infix_of_between hInfix with hHere | hLater
  · exact hx hHere
  · rcases hb.infix_of_between hLater with hHere | hLater
    · exact hCss hHere
    · exact hy hLater

/-- A style element begins no script that does not begin in what it holds. -/
theorem not_infix_styleElement (hx : ¬ Tag.script.opener <:+: x.map fold)
    (hCss : ¬ Tag.script.opener <:+: css.map fold) (hy : ¬ Tag.script.opener <:+: y.map fold) :
    ¬ Tag.script.opener <:+: (x ++ (styleElement css ++ y)).map fold :=
  not_infix_framed (by decide) (by decide) hx hCss hy

/-- No opening tag runs over the end of a line. -/
theorem not_infix_behindLine {before : Text} (hEnd : ∀ c ∈ before.getLast?, isLineEnd c = true)
    (hx : x = [] ∨ x.getLast? = before.getLast?) (hGap : ¬ Tag.script.opener <:+: x.map fold)
    (hy : ¬ Tag.script.opener <:+: y.map fold) : ¬ Tag.script.opener <:+: (x ++ y).map fold := by
  rcases List.eq_nil_or_concat x with rfl | ⟨x, c, rfl⟩
  · exact hy
  · rw [List.concat_eq_append] at hx hGap ⊢
    have hLast : isLineEnd c = true := by
      rcases hx with hNil | hLast
      · simp at hNil
      · exact hEnd c (by rw [← hLast, List.getLast?_concat]; rfl)
    have hClear : Clear Tag.script.opener ([c].map fold) := by
      rw [isLineEnd, Bool.or_eq_true, decide_eq_true_eq, decide_eq_true_eq] at hLast
      rcases hLast with rfl | rfl <;> decide
    intro hInfix
    rw [List.append_assoc, List.map_append, List.map_append] at hInfix
    rcases hClear.infix_of_between hInfix with hHere | hLater
    · rw [List.map_append] at hGap
      exact hGap (List.infix_append_of_infix_left hHere)
    · exact hy hLater

end Infix

/-- Every region that is wrapped, up to the limit, stands outside of the script elements
of the page that it is wrapped in. -/
def RegionsOutside : (limit : Nat) → Text → Prop
  | 0, _ => True
  | limit + 1, page => ∀ before css behind, nextRegion? page = some (before, css, behind) →
      Outside .script page (before.length, before.length + css.length) ∧
        RegionsOutside limit (before ++ styleElement css ++ behind)

theorem sublist_scripts_wrapRegions (limit : Nat) : ∀ page : Text, RegionsOutside limit page →
    (scripts page).Sublist (scripts (wrapRegions limit page).1) := by
  induction limit with
  | zero => exact fun _ _ => List.Sublist.refl _
  | succ limit ih =>
    intro page h
    rw [wrapRegions]
    split
    · exact List.Sublist.refl _
    · next before css behind hNext =>
      obtain ⟨hOutside, hLater⟩ := h before css behind hNext
      obtain rfl := nextRegion?_eq hNext
      refine List.Sublist.trans ?_ (ih _ hLater)
      rw [List.append_assoc] at hOutside ⊢
      rw [List.append_assoc]
      refine (regapped_splice css (styleElement css) hOutside ?_).sublist_contents
      intro x y _ hGap
      obtain ⟨hx, hCss, hy⟩ := not_infix_parts hGap
      exact closed_of_no_opener (not_infix_styleElement hx hCss hy)

-- ---------------------------------------------------------------------------
-- Moving rules
-- ---------------------------------------------------------------------------

/-- Rules between two texts are taken from a place outside of the script elements and put
in another such place, and no opening script tag stands in them. -/
structure MovesOutside (before css behind : Text) : Prop where
  taken : Outside .script (before ++ css ++ behind) (before.length, before.length + css.length)
  plain : ¬ Tag.script.opener <:+: css.map fold
  put : Outside .script (before ++ behind)
    (insertionPlace before behind, insertionPlace before behind)

theorem sublist_scripts_wrapStandalone {moved : Text} (h : wrapStandalone? page = some moved)
    (hOutside : ∀ before css behind, standalone? page = some (before, css, behind) →
      Stylesheet.isLikely css = true → MovesOutside before css behind) :
    (scripts page).Sublist (scripts moved) := by
  obtain ⟨before, css, behind, a, b, inserted, hFound, hLikely, hRemaining, hPlace, hInserted,
    rfl⟩ := exists_of_wrapStandalone? h
  obtain ⟨hTaken, hPlain, hPut⟩ := hOutside before css behind hFound hLikely
  obtain ⟨rfl, hEnd⟩ := standalone?_eq hFound
  have hRemoved : (scripts (before ++ css ++ behind)).Sublist (scripts (before ++ behind)) := by
    rw [List.append_assoc] at hTaken ⊢
    refine (regapped_splice css [] hTaken ?_).sublist_contents
    intro x y hLast hGap
    obtain ⟨hx, -, hy⟩ := not_infix_parts hGap
    exact closed_of_no_opener (not_infix_behindLine hEnd hLast hx hy)
  have hPutIn : (scripts (before ++ behind)).Sublist (scripts (a ++ inserted ++ b)) := by
    rw [hRemaining, ← hPlace] at hPut
    rw [hRemaining, List.append_assoc]
    refine (regapped_splice [] inserted hPut ?_).sublist_contents
    intro x y _ hGap
    obtain ⟨hx, -, hy⟩ := not_infix_parts hGap
    have hTrimmed : ¬ Tag.script.opener <:+: (trimLineEnds css).map fold := by
      obtain ⟨u, v, -, -, hCss⟩ := exists_lineEnds_trimLineEnds css
      rw [hCss, List.append_assoc] at hPlain
      exact (not_infix_parts hPlain).2.1
    refine closed_of_no_opener ?_
    rcases hInserted with rfl | rfl
    · exact not_infix_styleElement hx hTrimmed hy
    · rw [List.append_assoc]
      refine not_infix_styleElement hx hTrimmed fun hInfix => ?_
      have hLine : Clear Tag.script.opener (['\n'].map fold) := by decide
      rw [List.map_append] at hInfix
      exact hy (hLine.infix_of_append hInfix)
  exact hRemoved.trans hPutIn

/-- What is wrapped in its place, or moved, stands outside of the script elements. -/
structure WrapsOutside (limit : Nat) (page : Text) : Prop where
  regions : RegionsOutside limit page
  moved : (wrapRegions limit page).2 = 0 → hasStyleTag page = false → ∀ before css behind,
    standalone? page = some (before, css, behind) → Stylesheet.isLikely css = true →
      MovesOutside before css behind

theorem sublist_scripts_wrapBareStyle {limit : Nat} (h : WrapsOutside limit page) :
    (scripts page).Sublist (scripts (wrapBareStyle limit page).1) := by
  rcases wrapBareStyle_cases limit page with hSame | ⟨hNumber, hStyle, moved, hMoved, hSame⟩
  · rw [hSame]
    exact sublist_scripts_wrapRegions limit page h.regions
  · rw [hSame]
    exact sublist_scripts_wrapStandalone hMoved (h.moved hNumber hStyle)

/-- **Scripts are kept**: a rewrite that touches no script element keeps the contents of
all scripts, in order. -/
theorem scripts_sublist_rewritten (limit : Nat) (page : Text) :
    (RestoresOutside page → (scripts page).Sublist (scripts (restoreMarkup page).1)) ∧
      (WrapsOutside limit page →
        (scripts page).Sublist (scripts (wrapBareStyle limit page).1)) :=
  ⟨sublist_scripts_restoreMarkup, sublist_scripts_wrapBareStyle⟩

/-- An encoded title and bare rules before a script. -/
def headBeforeScript : Text :=
  oneScript "&lt;title&gt;Sketch</title>\nbody \x7b color: red; \x7d\n".toList "f()".toList

theorem elements_headBeforeScript : elements .script headBeforeScript =
    [⟨.script, "<script>".toList, "f()".toList, "</script>".toList, 49, 3⟩] :=
  elements_oneScript (by decide) (by decide)

theorem restoresOutside_headBeforeScript : RestoresOutside headBeforeScript := by
  have hScripts : withScripts headBeforeScript = headBeforeScript := by decide +kernel
  have hTitles : withTitles headBeforeScript = headBeforeScript := by
    rw [withTitles, hScripts]
    decide +kernel
  have hTitle : places encodedTag? headBeforeScript = [(0, 13)] := by decide +kernel
  refine ⟨by decide +kernel, ?_, ?_, ?_⟩
  · rw [hScripts]
    decide +kernel
  · intro place hPlace e he
    rw [hTitles] at hPlace he
    rw [hTitle] at hPlace
    rw [elements_headBeforeScript] at he
    obtain rfl := List.mem_singleton.mp hPlace
    obtain rfl := List.mem_singleton.mp he
    decide
  · rw [hTitles, headBeforeScript, dissect_oneScript (by decide) (by decide)]
    intro p hp
    rw [List.mem_singleton.mp hp]
    exact closed_of_no_opener (by decide +kernel)

theorem nextRegion?_headBeforeScript : nextRegion? headBeforeScript =
    some ("&lt;title&gt;Sketch</title>\n".toList, "body \x7b color: red; \x7d\n".toList,
      "<script>f()</script>".toList) := by
  decide +kernel

theorem wrapsOutside_headBeforeScript : WrapsOutside 1 headBeforeScript := by
  refine ⟨?_, ?_⟩
  · intro before css behind hNext
    rw [nextRegion?_headBeforeScript, Option.some.injEq, Prod.mk.injEq, Prod.mk.injEq] at hNext
    obtain ⟨rfl, rfl, rfl⟩ := hNext
    refine ⟨?_, trivial⟩
    intro e he
    rw [elements_headBeforeScript] at he
    obtain rfl := List.mem_singleton.mp he
    decide
  · intro hNone
    rw [wrapRegions, nextRegion?_headBeforeScript] at hNone
    exact absurd hNone (Nat.succ_ne_zero _)

theorem scripts_sublist_rewritten_headBeforeScript :
    RestoresOutside headBeforeScript ∧ WrapsOutside 1 headBeforeScript ∧
      (scripts headBeforeScript).Sublist (scripts (restoreMarkup headBeforeScript).1) ∧
      (scripts headBeforeScript).Sublist (scripts (wrapBareStyle 1 headBeforeScript).1) := by
  obtain ⟨hRestored, hWrapped⟩ := scripts_sublist_rewritten 1 headBeforeScript
  exact ⟨restoresOutside_headBeforeScript, wrapsOutside_headBeforeScript,
    hRestored restoresOutside_headBeforeScript, hWrapped wrapsOutside_headBeforeScript⟩

/-- A script with an encoded tag in a string, and one with bare rules behind a tag. -/
def encodedString : Text := oneScript [] "a = \"&lt;title&gt;\"".toList

def stringOfRules : Text := oneScript [] "a = \"<head>body \x7b color: red; \x7d\"".toList

/-- Strings in scripts are rewritten like the rest of the page. -/
theorem scripts_not_sublist_rewritten :
    ¬ (scripts encodedString).Sublist (scripts (restoreMarkup encodedString).1) ∧
      ¬ (scripts stringOfRules).Sublist (scripts (wrapBareStyle 1 stringOfRules).1) := by
  have hScripts {content : Text} (h : IsContent .script content) :
      scripts (oneScript [] content) = [content] := by
    rw [scripts, elements_oneScript (by decide) h]
    rfl
  have hRestored : (restoreMarkup encodedString).1 = oneScript [] "a = \"<title>\"".toList := by
    decide +kernel
  have hWrapped : (wrapBareStyle 1 stringOfRules).1 = oneScript []
      "a = \"<head><style>\nbody \x7b color: red; \x7d\"\n</style>".toList := by
    decide +kernel
  rw [hRestored, hWrapped, encodedString, stringOfRules, hScripts (by decide), hScripts (by decide),
    hScripts (by decide), hScripts (by decide)]
  decide

end Document

end SketchRepair
