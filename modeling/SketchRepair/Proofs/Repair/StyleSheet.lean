import Mathlib.Data.List.Forall2
import SketchRepair.Proofs.Document.Revision
import SketchRepair.Proofs.Repair.Run
import SketchRepair.Proofs.Stylesheet.Mechanical
import SketchRepair.Repair.Pass.StyleSheet

/-!
# SketchRepair — mending style sheets without help

When no answer is to be had, the pass mends every faulty sheet mechanically, and takes
what comes of it if that differs in more than blanks. A sheet that was mended may still
be faulty, but mending it once more changes nothing, so the pass is done with a page at
the first time.

* `repairSheets_of_unaided` — what is done to the sheets, one after the other;
* `mendedSheet_settled` — a sheet that comes out of the pass is left alone by it;
* `dissect_sheetsMended` — the page keeps its elements;
* `styleSheet_mends` — the pass on a page, and again on the page it yields.
-/

namespace SketchRepair

namespace Pass

open Document (Element Piece updatesOf)
open Stylesheet (validate mend differs)

variable {team : Collaborators} {s : Progress} {css : Text}

/-- What becomes of a sheet that is mended mechanically; none when it is left alone. -/
def mendedSheet (css : Text) : Option Text :=
  if Text.allBlank css = false ∧ (validate css).isFaulty = true ∧ differs css (mend css) = true then
    some (mend css)
  else none

-- ---------------------------------------------------------------------------
-- The sheets one after the other
-- ---------------------------------------------------------------------------

theorem mendSheet_apply (location css : Text) (details : List Text) (s : Progress) :
    ∃ q, mendSheet location css details s =
      (.ok (if differs css (mend css) = true then some (mend css) else none), q) := by
  unfold mendSheet
  by_cases hDiffers : differs css (mend css) = true
  · simp only [hDiffers, if_true]
    exact ⟨_, Run.log_bind_apply _ _ s⟩
  · simp only [hDiffers]
    exact ⟨s, rfl⟩

theorem repairSheet_of_unaided (hTeam : team.IsUnaided) (e : Element) (details : List Text)
    (s : Progress) : ∃ q, repairSheet team e details s =
      (.ok (if differs e.content (mend e.content) = true then some (mend e.content) else none),
        q) := by
  obtain ⟨q, hAsk, -⟩ := Run.ask_of_unaided hTeam styleSheetName
    (Prompt.StyleContext.request ⟨e.content, details⟩) s
  obtain ⟨q', hMend⟩ := mendSheet_apply ("style at line ".toList ++ Decimal.ofNat e.line)
    e.content details q
  exact ⟨q', Run.bind_eq_of_ok hAsk hMend⟩

/-- All sheets are mended mechanically when no answer is to be had. -/
theorem repairSheets_of_unaided (hTeam : team.IsUnaided) (es : List Element) :
    (∀ e ∈ es, e.isBlank = false) → ∀ s : Progress, ∃ q, repairSheets team es s =
      (.ok (updatesOf (fun e => mendedSheet e.content) es), q) := by
  induction es with
  | nil => exact fun _ s => ⟨s, rfl⟩
  | cons e es ih =>
    intro hSolid s
    obtain ⟨hHere, hRest⟩ := List.forall_mem_cons.mp hSolid
    have hContent : Text.allBlank e.content = false := hHere
    unfold repairSheets
    dsimp only
    rw [updatesOf, List.filterMap_cons, mendedSheet]
    by_cases hFaulty : (validate e.content).isFaulty = true
    · obtain ⟨q, hSheet⟩ := repairSheet_of_unaided hTeam e (validate e.content).details s
      obtain ⟨q', hLater⟩ := ih hRest q
      refine ⟨q', ?_⟩
      rw [if_pos hFaulty, Run.bind_of_ok _ hSheet]
      by_cases hDiffers : differs e.content (mend e.content) = true
      · rw [if_pos hDiffers, if_pos ⟨hContent, hFaulty, hDiffers⟩]
        exact Run.bind_of_ok _ hLater
      · rw [if_neg hDiffers, if_neg fun h => hDiffers h.2.2]
        exact hLater
    · obtain ⟨q, hLater⟩ := ih hRest s
      refine ⟨q, ?_⟩
      rw [if_neg hFaulty, if_neg fun h => hFaulty h.2.1]
      exact hLater

-- ---------------------------------------------------------------------------
-- One sheet
-- ---------------------------------------------------------------------------

theorem mendedSheet_eq_some {new : Text} (h : mendedSheet css = some new) :
    new = mend css ∧ Text.allBlank css = false ∧ (validate css).isFaulty = true ∧
      differs css new = true := by
  unfold mendedSheet at h
  split at h
  · next hMended =>
    rw [Option.some.injEq] at h
    subst h
    exact ⟨rfl, hMended⟩
  · simp at h

theorem mendedSheet_eq_none (h : differs css (mend css) = false) : mendedSheet css = none :=
  if_neg fun hMended => Bool.false_ne_true (h.symm.trans hMended.2.2)

/-- A sheet does not differ from itself. -/
theorem differs_self (css : Text) : differs css css = false := by
  simp [differs]

/-- What comes out of the pass is left alone by it. -/
theorem mendedSheet_settled (css : Text) : mendedSheet ((mendedSheet css).getD css) = none := by
  cases hMended : mendedSheet css with
  | none => exact hMended
  | some new =>
    obtain ⟨rfl, -⟩ := mendedSheet_eq_some hMended
    refine mendedSheet_eq_none ?_
    show differs (mend css) (mend (mend css)) = false
    rw [Stylesheet.mend_mend, differs_self]

/-- A sheet is mended exactly when it comes out with more than blanks changed. -/
theorem isSome_mendedSheet (css : Text) :
    (mendedSheet css).isSome = differs css ((mendedSheet css).getD css) := by
  cases hMended : mendedSheet css with
  | none => exact (differs_self css).symm
  | some new =>
    obtain ⟨-, -, -, hDiffers⟩ := mendedSheet_eq_some hMended
    exact hDiffers.symm

/-- How an element comes out of the pass: its sheet is mended if it is faulty and mending
it changes more than blanks, and is left alone otherwise. -/
structure IsMendedSheet (p q : Piece) : Prop where
  /-- The text before the element is the same. -/
  gap : q.gap = p.gap
  /-- So is the opening tag. -/
  opening : q.opening = p.opening
  /-- So is the closing tag. -/
  closing : q.closing = p.closing
  /-- A sheet with code in it still has code in it. -/
  blank : Text.allBlank q.content = Text.allBlank p.content
  /-- A sheet in which no fault is found is left alone. -/
  sound : (validate p.content).isFaulty = false → q.content = p.content
  /-- A sheet comes out as it was or mended. -/
  mended : q.content = p.content ∨
    q.content = mend p.content ∧ (validate p.content).isFaulty = true ∧
      differs p.content q.content = true

/-- An element with its sheet mended, if there is anything to mend. -/
def sheetMended (p : Piece) : Piece :=
  { p with content := (mendedSheet p.content).getD p.content }

theorem isMendedSheet_sheetMended (p : Piece) : IsMendedSheet p (sheetMended p) := by
  unfold sheetMended
  cases hMended : mendedSheet p.content with
  | none => exact ⟨rfl, rfl, rfl, rfl, fun _ => rfl, .inl rfl⟩
  | some new =>
    obtain ⟨hNew, hSolid, hFaulty, hDiffers⟩ := mendedSheet_eq_some hMended
    refine ⟨rfl, rfl, rfl, ?_, ?_, .inr ⟨hNew, hFaulty, hDiffers⟩⟩
    · show Text.allBlank new = Text.allBlank p.content
      rw [hNew, hSolid, Stylesheet.allBlank_mend hSolid]
    · intro hSound
      rw [hFaulty] at hSound
      exact absurd hSound (by simp)

-- ---------------------------------------------------------------------------
-- The page
-- ---------------------------------------------------------------------------

/-- The new contents of the sheets of a page. -/
def sheetUpdates (page : Text) : List (Element × Text) :=
  updatesOf (fun e => mendedSheet e.content) (Document.elements .style page)

/-- The page with its faulty sheets mended. -/
def sheetsMended (page : Text) : Text := Document.replaceContents (sheetUpdates page) page

/-- Blank sheets have nothing to be mended. -/
theorem updatesOf_inhabited (page : Text) :
    updatesOf (fun e => mendedSheet e.content) (Document.inhabited .style page) =
      sheetUpdates page := by
  rw [updatesOf, Document.inhabited, List.filterMap_filter, sheetUpdates, updatesOf]
  refine List.filterMap_congr ?_
  intro e _
  by_cases hBlank : e.isBlank = true
  · have hNone : mendedSheet e.content = none := by
      refine if_neg ?_
      rintro ⟨hSolid, -⟩
      exact Bool.false_ne_true (hSolid.symm.trans hBlank)
    rw [if_neg (by simp [hBlank]), hNone, Option.map_none]
  · rw [if_pos (by simp [hBlank])]

theorem sheetsMended_eq_self {page : Text} (h : sheetUpdates page = []) :
    sheetsMended page = page := by
  rw [sheetsMended, h, Document.replaceContents, List.mergeSort_nil]
  rfl

theorem run_of_unaided (hTeam : team.IsUnaided) (page : Text) (s : Progress) :
    ∃ s', styleSheet.run team page s =
      (.ok ⟨styleSheetName, sheetsMended page, (sheetUpdates page).length, false, none⟩, s') := by
  have hSolid : ∀ e ∈ Document.inhabited .style page, e.isBlank = false := by
    intro e he
    have := (List.mem_filter.mp he).2
    simpa using this
  obtain ⟨q, hSheets⟩ := repairSheets_of_unaided hTeam (Document.inhabited .style page) hSolid
    (s.noting (.passStarted styleSheetName))
  rw [updatesOf_inhabited] at hSheets
  have hRepair : styleSheet.repair team page (s.noting (.passStarted styleSheetName)) =
      (.ok (sheetsMended page, (sheetUpdates page).length), q) := Run.bind_of_ok _ hSheets
  refine ⟨q.noting (.completed styleSheetName (sheetUpdates page).length untimed none), ?_⟩
  rw [run_of_ok rfl hRepair]
  by_cases hZero : (sheetUpdates page).length = 0
  · rw [if_pos hZero, sheetsMended_eq_self (List.length_eq_zero_iff.mp hZero)]
    rfl
  · rw [if_neg hZero]
    rfl

/-- The elements of a mended page are the elements of the page, mended one by one. -/
theorem dissect_sheetsMended (page : Text) :
    Document.dissect .style (sheetsMended page) =
      ((Document.dissect .style page).1.map sheetMended, (Document.dissect .style page).2) := by
  have hContent : ∀ e ∈ Document.elements .style page, ∀ new,
      mendedSheet e.content = some new → Document.IsContent .style new := by
    intro e he new hNew
    obtain ⟨rfl, -⟩ := mendedSheet_eq_some hNew
    exact Stylesheet.isContent_mend (Document.isContent_of_mem_elements he)
  have hUpdates : (sheetUpdates page).Perm (updatesOf (fun e => mendedSheet e.content)
      (Document.elements .style page)) := List.Perm.refl _
  rw [sheetsMended, Document.dissect_replaceContents hUpdates hContent,
    Document.revised_eq_map (fun _ => rfl)]
  rfl

/-- The number of sheets in two lists of elements that differ in more than blanks. -/
def differing (ps qs : List Piece) : Nat :=
  (ps.zip qs).countP fun (p, q) => differs p.content q.content

/-- The sheets that are mended are those that come out different. -/
theorem differing_sheetMended (ps : List Piece) :
    differing ps (ps.map sheetMended) = ps.countP fun p => (mendedSheet p.content).isSome := by
  induction ps with
  | nil => rfl
  | cons p ps ih =>
    have hHere : differs p.content (sheetMended p).content = (mendedSheet p.content).isSome :=
      (isSome_mendedSheet p.content).symm
    unfold differing at ih ⊢
    rw [List.map_cons, List.zip_cons_cons, List.countP_cons, List.countP_cons, ih]
    show _ + (if differs p.content (sheetMended p).content = true then 1 else 0) = _
    rw [hHere]

/-- Every new content shows. -/
theorem length_sheetUpdates (page : Text) :
    (sheetUpdates page).length =
      differing (Document.dissect .style page).1 (Document.dissect .style (sheetsMended page)).1 := by
  have hElements : (sheetUpdates page).length =
      ((Document.elements .style page).map (·.content)).countP
        fun css => (mendedSheet css).isSome := by
    rw [sheetUpdates, updatesOf, List.length_filterMap_eq_countP, List.countP_map]
    refine List.countP_congr ?_
    intro e _
    simp
  rw [hElements, Document.elements, Document.map_content_locate, List.countP_map,
    dissect_sheetsMended, differing_sheetMended]
  rfl

/-- A mended page has nothing to be mended. -/
theorem sheetUpdates_sheetsMended (page : Text) : sheetUpdates (sheetsMended page) = [] := by
  rw [sheetUpdates, updatesOf, List.filterMap_eq_nil_iff]
  intro e he
  have hMem : e.content ∈ (Document.elements .style (sheetsMended page)).map (·.content) :=
    List.mem_map_of_mem he
  rw [Document.elements, Document.map_content_locate, dissect_sheetsMended, List.map_map] at hMem
  obtain ⟨p, -, hContent⟩ := List.mem_map.mp hMem
  have hSettled : mendedSheet (sheetMended p).content = none := mendedSheet_settled p.content
  rw [← hContent, Function.comp_apply, hSettled, Option.map_none]

/-- **Mending style sheets without help**: when no answer is to be had, the pass yields a
page with the same elements and the same text around them, in which only faulty sheets
are changed, and counts those that differ in more than blanks. On that page the pass
counts nothing and changes nothing, as long as no answer is to be had. -/
theorem styleSheet_mends (hTeam : team.IsUnaided) (page : Text) (s : Progress) :
    ∃ page' s', styleSheet.run team page s =
        (.ok ⟨styleSheetName, page',
          differing (Document.dissect .style page).1 (Document.dissect .style page').1, false,
          none⟩, s') ∧
      List.Forall₂ IsMendedSheet (Document.dissect .style page).1
        (Document.dissect .style page').1 ∧
      (Document.dissect .style page').2 = (Document.dissect .style page).2 ∧
      ∀ team' r, team'.IsUnaided →
        ∃ r', styleSheet.run team' page' r = (.ok ⟨styleSheetName, page', 0, false, none⟩, r') := by
  obtain ⟨s', hRun⟩ := run_of_unaided hTeam page s
  rw [length_sheetUpdates] at hRun
  refine ⟨sheetsMended page, s', hRun, ?_, by rw [dissect_sheetsMended], ?_⟩
  · rw [dissect_sheetsMended, List.forall₂_map_right_iff, List.forall₂_same]
    intro p _
    exact isMendedSheet_sheetMended p
  · intro team' r hTeam'
    obtain ⟨r', hAgain⟩ := run_of_unaided hTeam' (sheetsMended page) r
    have hNothing := sheetUpdates_sheetsMended page
    rw [sheetsMended_eq_self hNothing, hNothing] at hAgain
    exact ⟨r', hAgain⟩

/-- A page with a faulty sheet, and one in which no fault is found. -/
def twoSheets : Text :=
  "<style>a \x7b color: red \x7d\n: b;\n\x7d</style><p><STYLE>a \x7b color: red; \x7d</STYLE>".toList

/-- An oracle that is never available. -/
def unavailable : Collaborators := ⟨some fun _ _ => .unavailable "no answer".toList, none⟩

theorem isUnaided_unavailable : unavailable.IsUnaided := by
  intro oracle hOracle n request
  obtain rfl := Option.some.inj hOracle
  exact ⟨_, rfl⟩

/-- One of the two sheets is mended. -/
theorem styleSheet_mends_twoSheets :
    unavailable.IsUnaided ∧
      ∃ page' s', styleSheet.run unavailable twoSheets .initial =
          (.ok ⟨styleSheetName, page', 1, false, none⟩, s') ∧
        List.Forall₂ IsMendedSheet (Document.dissect .style twoSheets).1
          (Document.dissect .style page').1 ∧
        (Document.dissect .style page').2 = (Document.dissect .style twoSheets).2 ∧
        ∀ team' r, team'.IsUnaided →
          ∃ r', styleSheet.run team' page' r = (.ok ⟨styleSheetName, page', 0, false, none⟩, r') := by
  have hUnaided := isUnaided_unavailable
  have hOnce : (styleSheet.run unavailable twoSheets .initial).1.map (·.fixes) = .ok 1 := by
    decide +kernel
  obtain ⟨page', s', hRun, hRest⟩ := styleSheet_mends hUnaided twoSheets .initial
  rw [hRun] at hOnce
  have hCount : differing (Document.dissect .style twoSheets).1
      (Document.dissect .style page').1 = 1 := Except.ok.inj hOnce
  rw [hCount] at hRun
  exact ⟨hUnaided, page', s', hRun, hRest⟩

end Pass

end SketchRepair
