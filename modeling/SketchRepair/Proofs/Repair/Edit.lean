import SketchRepair.Proofs.Document.BareStyle
import SketchRepair.Proofs.Document.Exchange
import SketchRepair.Proofs.Document.Markup
import SketchRepair.Proofs.Repair.LiveCall
import SketchRepair.Proofs.Repair.Parenthesis
import SketchRepair.Proofs.Repair.UndefinedVariable
import SketchRepair.Repair.Pipeline

/-!
# SketchRepair — the edits that passes count

A pass works on its page by edits: it puts one new text in the place of an old one, or
new contents into several elements at once, and counts fixes for it. Whether an edit
changes the page depends on where its new texts come from. What is found mechanically
differs from what it replaces, and most passes look at the answers of the oracle before
they use them. The two that take patches of lines from an answer do not.

* `Edit` — all edits, by pass, with the fixes counted for each;
* `Edit.pos` — every edit counts;
* `Edit.leavesScript` — an edit that leaves the page as it is puts in patches of lines
  from an answer, and these leave a script as it is;
* `Edit.grows` — without answers an edit makes the page longer.
-/

namespace SketchRepair

namespace Pass

open Document (Element)
open Patch (LinePatch BlockPatch Stretch)
open Prompt (ParenContext ScriptTagContext ShaderContext UndefinedContext)
open Script (MissingFunction parenIssues mendParens)

/-- The oracle gives this answer to a question when it is asked at some time. -/
def Answers (team : Collaborators) (request : Request) (answer : Text) : Prop :=
  ∃ oracle n, team.oracle = some oracle ∧ oracle n request = .answer answer

/-- There is no oracle, or it never has an answer. -/
def Unanswered (team : Collaborators) : Prop := ∀ request answer, ¬ Answers team request answer

/-- What becomes of a script with unmatched parentheses, with the fixes counted for it. -/
inductive Matched (team : Collaborators) (script : Text) : Text → Nat → Prop where
  | mended (hIssues : parenIssues script ≠ []) :
      Matched team script (mendParens script (parenIssues script)) (parenIssues script).length
  | patched {answer : Text} {patches : List LinePatch} {outcome : Patch.LineOutcome}
      (hAnswer : Answers team (ParenContext.request ⟨script, parenIssues script⟩) answer)
      (hRead : ParenContext.readAnswer answer = .ok patches)
      (hOutcome : Patch.applyLinePatches similarityThreshold script patches (parenIssues script) =
        outcome)
      (hApplied : outcome.applied ≠ []) :
      Matched team script outcome.content outcome.applied.length

/-- What a pass does to a page at one time: the name of the pass, the page, the fixes
counted for it, and the page that it makes. -/
inductive Edit (team : Collaborators) : (pass page : Text) → Nat → (next : Text) → Prop where
  /-- Encoded markup is restored. -/
  | markup {page next : Text} {n : Nat} (h : Document.restoreMarkup page = (next, n))
      (hCount : n ≠ 0) : Edit team markupName page n next
  /-- Bare CSS is wrapped. -/
  | wrapping {page next : Text} {n : Nat} (h : Document.wrapBareStyle wrapLimit page = (next, n))
      (hCount : n ≠ 0) : Edit team styleTagsName page n next
  /-- A script tag gives way to the one of an answer. -/
  | scriptTag {page answer new : Text} {c : ScriptTagContext}
      (hAnswer : Answers team c.request answer) (hRead : c.readAnswer answer = some new)
      (hHas : Text.has c.tag page = true) :
      Edit team scriptTagName page 1 (Text.replaceFirst c.tag new page)
  /-- Calls of a function are commented out. -/
  | calls {page : Text} {f : MissingFunction} {updates : List (Element × Text)}
      (hUpdates : updates ≠ []) (hDistinct : (updates.map Prod.fst).Nodup)
      (hFound : ∀ u ∈ updates, u.1 ∈ Document.inlineScripts page)
      (hNew : ∀ u ∈ updates, u.2 ≠ u.1.content ∧
        ∃ s s', commentOutCalls team f u.1.content s = (.ok u.2, s')) :
      Edit team missingFunctionName page updates.length (Document.replaceContents updates page)
  /-- Style sheets are repaired. -/
  | sheets {page : Text} {updates : List (Element × Text)}
      (hUpdates : updates ≠ []) (hDistinct : (updates.map Prod.fst).Nodup)
      (hFound : ∀ u ∈ updates, u.1 ∈ Document.inhabited .style page)
      (hNew : ∀ u ∈ updates, Stylesheet.differs u.1.content u.2 = true) :
      Edit team styleSheetName page updates.length (Document.replaceContents updates page)
  /-- A variable is declared before a script. -/
  | declared {page comment : Text} {v : Page.UndefinedVariable} {e : Element}
      (hFound : e ∈ Document.inlineScripts page) :
      Edit team undefinedVariableName page 1
        (e.replaceContent (declareBefore v.name comment e.content) page)
  /-- The lines of a script are changed by an answer. -/
  | patched {page answer : Text} {v : Page.UndefinedVariable} {e : Element}
      {patches : List LinePatch} (hFound : e ∈ Document.inlineScripts page)
      (hAnswer : Answers team (questionOn v e.content) answer)
      (hRead : UndefinedContext.readAnswer ⟨e.content, v.name, v.message⟩ answer = .ok patches)
      (hPatches : patches ≠ []) :
      Edit team undefinedVariableName page patches.length
        (e.replaceContent (replaceLines v.name e.content patches) page)
  /-- Parentheses are matched in scripts, each with the fixes counted for it. -/
  | matched {page : Text} {updates : List (Element × Text)} {counts : List Nat}
      (hUpdates : updates ≠ []) (hDistinct : (updates.map Prod.fst).Nodup)
      (hFound : ∀ u ∈ updates, u.1 ∈ Document.inlineScripts page)
      (hNew : List.Forall₂ (fun u n => Matched team u.1.content u.2 n) updates counts) :
      Edit team parenthesisName page counts.sum (Document.replaceContents updates page)
  /-- A shader material gives way to the one of an answer. -/
  | shader {page answer new : Text} {c : ShaderContext}
      (hAnswer : Answers team c.request answer) (hRead : c.readAnswer answer = some new)
      (hHas : Text.has c.block page = true) :
      Edit team shaderName page 1 (Text.replaceFirst c.block new page)

/-- Patches of lines from an answer leave a script as it is. -/
inductive LeavesScript (team : Collaborators) : (pass script : Text) → Prop where
  | variables {script answer : Text} {v : Page.UndefinedVariable} {patches : List LinePatch}
      (hAnswer : Answers team (questionOn v script) answer)
      (hRead : UndefinedContext.readAnswer ⟨script, v.name, v.message⟩ answer = .ok patches)
      (hPatches : patches ≠ []) (hSame : replaceLines v.name script patches = script) :
      LeavesScript team undefinedVariableName script
  | parentheses {script answer : Text} {patches : List LinePatch} {outcome : Patch.LineOutcome}
      (hAnswer : Answers team (ParenContext.request ⟨script, parenIssues script⟩) answer)
      (hRead : ParenContext.readAnswer answer = .ok patches)
      (hOutcome : Patch.applyLinePatches similarityThreshold script patches (parenIssues script) =
        outcome)
      (hApplied : outcome.applied ≠ []) (hSame : outcome.content = script) :
      LeavesScript team parenthesisName script

variable {team : Collaborators} {pass page next script new : Text} {n : Nat} {s s' : Progress}

-- ---------------------------------------------------------------------------
-- Texts that are exchanged
-- ---------------------------------------------------------------------------

/-- Another text in the place of an occurrence makes another page. -/
theorem replaceFirst_ne {old new page : Text} (hHas : Text.has old page = true) (hNew : new ≠ old) :
    Text.replaceFirst old new page ≠ page := by
  obtain ⟨⟨before, rest⟩, hCut⟩ := Option.isSome_iff_exists.mp hHas
  rw [Text.replaceFirst, hCut]
  intro h
  have hPage := Text.cut?_eq_some hCut
  rw [hPage, List.append_cancel_right_eq, List.append_cancel_left_eq] at h
  exact hNew h

/-- What is read from an answer is not what was asked about. -/
theorem scriptTag_ne {c : ScriptTagContext} {answer : Text} (h : c.readAnswer answer = some new) :
    new ≠ c.tag := by
  simpa using (Option.filter_eq_some_iff.mp h).2

theorem shader_ne {c : ShaderContext} {answer : Text} (h : c.readAnswer answer = some new) :
    new ≠ c.block := by
  unfold ShaderContext.readAnswer at h
  dsimp only at h
  split at h
  · simp at h
  · next hOther =>
    rw [← Option.some.inj h]
    exact fun hSame => hOther (.inr hSame)

theorem ne_of_differs {before after : Text} (h : Stylesheet.differs before after = true) :
    after ≠ before := by
  rintro rfl
  simp [Stylesheet.differs] at h

/-- One content is exchanged like several. -/
theorem replaceContent_eq (e : Element) (new page : Text) :
    e.replaceContent new page = Document.replaceContents [(e, new)] page := by
  rw [Document.replaceContents, List.mergeSort_singleton]
  rfl

theorem mem_elements_of_mem_inhabited {tag : Document.Tag} {e : Element}
    (h : e ∈ Document.inhabited tag page) : e ∈ Document.elements tag page :=
  List.mem_of_mem_filter h

/-- Other contents in the places of some make another page. -/
theorem replaceContents_ne {tag : Document.Tag} {updates : List (Element × Text)}
    (hUpdates : updates ≠ []) (hDistinct : (updates.map Prod.fst).Nodup)
    (hFound : ∀ u ∈ updates, u.1 ∈ Document.inhabited tag page)
    (hNew : ∀ u ∈ updates, u.2 ≠ u.1.content) : Document.replaceContents updates page ≠ page := by
  intro hSame
  obtain ⟨u, rest, rfl⟩ := List.exists_cons_of_ne_nil hUpdates
  have hAll := (Document.replaceContents_eq_self_iff hDistinct fun u hu =>
    mem_elements_of_mem_inhabited (hFound u hu)).mp hSame
  exact hNew u (List.mem_cons_self ..) (hAll u (List.mem_cons_self ..))

/-- A content that is put in is there to be seen. -/
theorem replaceContent_eq_self_iff {e : Element} (h : e ∈ Document.inlineScripts page) :
    e.replaceContent new page = page ↔ new = e.content := by
  have hFound : ∀ u ∈ [(e, new)], u.1 ∈ Document.elements .script page := by
    intro u hu
    rw [List.mem_singleton] at hu
    exact hu ▸ mem_elements_of_mem_inhabited h
  rw [replaceContent_eq, Document.replaceContents_eq_self_iff (by simp) hFound]
  simp

theorem length_replaceContent {e : Element} (h : e ∈ Document.inlineScripts page)
    (hLonger : e.content.length < new.length) :
    page.length < (e.replaceContent new page).length := by
  have hFound : ∀ u ∈ [(e, new)], u.1 ∈ Document.elements .script page := by
    intro u hu
    rw [List.mem_singleton] at hu
    exact hu ▸ mem_elements_of_mem_inhabited h
  have hLength := Document.length_replaceContents (by simp) hFound (by simpa using hLonger)
  rw [replaceContent_eq]
  rw [List.length_singleton] at hLength
  omega

-- ---------------------------------------------------------------------------
-- Mechanical repairs
-- ---------------------------------------------------------------------------

theorem length_declareBefore (name comment script : Text) :
    script.length < (declareBefore name comment script).length := by
  rw [declareBefore, List.length_append, List.length_append, List.length_singleton]
  omega

theorem length_mended (hIssues : parenIssues script ≠ []) :
    script.length < (mendParens script (parenIssues script)).length := by
  have hLength := Script.length_mendParens script (parenIssues script)
  have := List.length_pos_iff.mpr hIssues
  omega

theorem Matched.pos (h : Matched team script new n) : 0 < n := by
  cases h with
  | mended hIssues => exact List.length_pos_iff.mpr hIssues
  | patched hAnswer hRead hOutcome hApplied => exact List.length_pos_iff.mpr hApplied

theorem Matched.leavesScript (h : Matched team script new n) (hSame : new = script) :
    LeavesScript team parenthesisName script := by
  cases h with
  | mended hIssues =>
    have hLength := length_mended hIssues
    rw [hSame] at hLength
    exact absurd hLength (Nat.lt_irrefl _)
  | patched hAnswer hRead hOutcome hApplied =>
    exact .parentheses hAnswer hRead hOutcome hApplied hSame

theorem Matched.grows (h : Matched team script new n) (hUnanswered : Unanswered team) :
    script.length < new.length := by
  cases h with
  | mended hIssues => exact length_mended hIssues
  | patched hAnswer hRead hOutcome hApplied => exact absurd hAnswer (hUnanswered _ _)

/-- Lines that are commented out take more room. -/
theorem extent_newLines {f : MissingFunction} {lines old : List Text} {m : Nat}
    (hm : m ∈ f.callLines lines) (hOld : old ≠ [])
    (hText : replacedText lines (mechanicalPatch f lines m) = Text.unlines old) :
    Text.extent old < Text.extent ((mechanicalPatch f lines m).newLines old) := by
  rw [replacedText_mechanicalPatch hm, blockText] at hText
  have hBlock := Text.length_unlines_le
    (Offset.slice (callBlock lines m).first ((callBlock lines m).last + 1) lines)
  have hNew : (mechanicalPatch f lines m).replacement = Script.commentOut lines
    (callBlock lines m) f.reference := rfl
  rw [BlockPatch.newLines, Text.extent_map_append, Text.extent_lines, hNew, Script.commentOut,
    ← Text.extent_eq (List.cons_ne_nil _ _), Text.extent_cons, Text.extent_map_append,
    Text.extent_eq hOld, ← hText, List.length_append]
  have hHeader : 1 ≤ "// ERROR: Block commented out due to missing function ".toList.length := by
    decide
  omega

/-- Stretches take more room if every patch puts in more than it takes out. -/
theorem extent_stretches {parts : List Stretch} (h : ∀ p old, .replaced p old ∈ parts →
      Text.extent old < Text.extent (p.newLines old)) :
    parts.flatMap Stretch.new = parts.flatMap Stretch.old ∨
      Text.extent (parts.flatMap Stretch.old) < Text.extent (parts.flatMap Stretch.new) := by
  induction parts with
  | nil => exact .inl rfl
  | cons part parts ih =>
    have hRest := ih fun p old hMem => h p old (List.mem_cons_of_mem _ hMem)
    rw [List.flatMap_cons, List.flatMap_cons, Text.extent_append, Text.extent_append]
    cases part with
    | kept line =>
      rcases hRest with hSame | hMore
      · exact .inl (by rw [hSame]; rfl)
      · exact .inr (Nat.add_lt_add_left hMore _)
    | replaced p old =>
      have hHere : Text.extent (Stretch.replaced p old).old <
          Text.extent (Stretch.replaced p old).new := h p old (List.mem_cons_self ..)
      rcases hRest with hSame | hMore
      · rw [hSame]
        exact .inr (Nat.add_lt_add_right hHere _)
      · exact .inr (Nat.add_lt_add hHere hMore)

/-- Without answers only mechanical patches are applied. -/
theorem commentOutCalls_of_unanswered {f : MissingFunction} (hUnanswered : Unanswered team)
    (h : commentOutCalls team f script s = (.ok new, s')) :
    new = script ∨
      new = (Patch.applyBlockPatches script (competing f (Text.lines script) [])).1 := by
  unfold commentOutCalls at h
  dsimp only at h
  split at h
  · exact .inl (Run.eq_of_pure_eq_ok h).symm
  · obtain ⟨found, q, hAsk, h⟩ := Run.exists_of_bind_eq_ok h
    cases found with
    | some answer => exact absurd (Run.exists_oracle_of_ask hAsk) (hUnanswered _ _)
    | none =>
      obtain ⟨q', hPatches⟩ := blockPatches_apply (Text.lines script) f [] q
      dsimp only at h
      rw [Run.bind_of_ok _ (Run.pure_apply ..)] at h
      have hDone := (Run.bind_of_ok _ hPatches).symm.trans h
      exact .inr (Run.eq_of_pure_eq_ok hDone).symm

/-- Without answers a script in which calls are commented out is longer. -/
theorem length_commentOutCalls {f : MissingFunction} (hUnanswered : Unanswered team)
    (h : commentOutCalls team f script s = (.ok new, s')) (hNew : new ≠ script) :
    script.length < new.length := by
  have hPatched := (commentOutCalls_of_unanswered hUnanswered h).resolve_left hNew
  obtain ⟨parts, hOld, hPlaced, hPatches, hDone⟩ := Patch.applyBlockPatches_spec script
    (competing f (Text.lines script) [])
  rw [hDone] at hPatched
  have hGrows : ∀ p old, .replaced p old ∈ parts →
      Text.extent old < Text.extent (p.newLines old) := by
    intro p old hMem
    obtain ⟨-, -, -, -, -, hne⟩ := hPlaced.of_mem hMem
    have hWins : p ∈ winning f (Text.lines script) [] := by
      have := Patch.mem_patches_iff.mpr ⟨old, hMem⟩
      rwa [hPatches, List.mem_reverse] at this
    rcases competing_cases (competing_of_winning hWins).1 with hProposed | ⟨m, hm, rfl⟩
    · simp at hProposed
    · have hText := replacedText_of_placed hPlaced hMem
      rw [hOld] at hText
      exact extent_newLines hm hne hText
  rcases extent_stretches hGrows with hSame | hMore
  · rw [hSame, hOld, Text.unlines_lines] at hPatched
    exact absurd hPatched hNew
  · have hne : parts.flatMap Stretch.new ≠ [] := by
      intro hNil
      rw [hNil] at hMore
      exact absurd hMore (Nat.not_lt_zero _)
    rw [hOld, Text.extent_lines, Text.extent_eq hne] at hMore
    rw [hPatched]
    exact Nat.lt_of_succ_lt_succ hMore

-- ---------------------------------------------------------------------------
-- Edits
-- ---------------------------------------------------------------------------

/-- Every edit counts. -/
theorem Edit.pos (h : Edit team pass page n next) : 0 < n := by
  cases h with
  | markup h hCount => exact Nat.pos_of_ne_zero hCount
  | wrapping h hCount => exact Nat.pos_of_ne_zero hCount
  | scriptTag => exact Nat.one_pos
  | calls hUpdates => exact List.length_pos_iff.mpr hUpdates
  | sheets hUpdates => exact List.length_pos_iff.mpr hUpdates
  | declared => exact Nat.one_pos
  | patched hFound hAnswer hRead hPatches => exact List.length_pos_iff.mpr hPatches
  | matched hUpdates hDistinct hFound hNew =>
    cases hNew with
    | nil => exact absurd rfl hUpdates
    | cons hFirst hRest =>
      rw [List.sum_cons]
      have := hFirst.pos
      omega
  | shader => exact Nat.one_pos

/-- An edit that leaves the page as it is puts in patches of lines from an answer, and
these leave a script of the page as it is. -/
theorem Edit.leavesScript (h : Edit team pass page n next) (hSame : next = page) :
    ∃ e ∈ Document.inlineScripts page, LeavesScript team pass e.content := by
  cases h with
  | markup h hCount =>
    have hTags := Document.count_restoreMarkup page
    rw [h, hSame] at hTags
    exact absurd hTags (by dsimp only; omega)
  | wrapping h hCount =>
    have hTags := Document.count_wrapBareStyle wrapLimit page
    rw [h, hSame] at hTags
    exact absurd hTags (by dsimp only; omega)
  | scriptTag hAnswer hRead hHas => exact absurd hSame (replaceFirst_ne hHas (scriptTag_ne hRead))
  | shader hAnswer hRead hHas => exact absurd hSame (replaceFirst_ne hHas (shader_ne hRead))
  | calls hUpdates hDistinct hFound hNew =>
    exact absurd hSame (replaceContents_ne hUpdates hDistinct hFound fun u hu => (hNew u hu).1)
  | sheets hUpdates hDistinct hFound hNew =>
    exact absurd hSame (replaceContents_ne hUpdates hDistinct hFound fun u hu =>
      ne_of_differs (hNew u hu))
  | @declared page comment v e hFound =>
    have hLength := length_declareBefore v.name comment e.content
    rw [(replaceContent_eq_self_iff hFound).mp hSame] at hLength
    exact absurd hLength (Nat.lt_irrefl _)
  | patched hFound hAnswer hRead hPatches =>
    exact ⟨_, hFound, .variables hAnswer hRead hPatches
      ((replaceContent_eq_self_iff hFound).mp hSame)⟩
  | @matched page updates counts hUpdates hDistinct hFound hNew =>
    have hAll := (Document.replaceContents_eq_self_iff hDistinct fun u hu =>
      mem_elements_of_mem_inhabited (hFound u hu)).mp hSame
    cases hNew with
    | nil => exact absurd rfl hUpdates
    | cons hFirst hRest =>
      exact ⟨_, hFound _ (List.mem_cons_self ..),
        hFirst.leavesScript (hAll _ (List.mem_cons_self ..))⟩

/-- Without answers an edit makes the page longer, unless it is one of the two that need
no answers anyway or repairs style sheets. -/
theorem Edit.grows (h : Edit team pass page n next) (hUnanswered : Unanswered team)
    (hPass : pass ∉ [markupName, styleTagsName, styleSheetName]) : page.length < next.length := by
  have hContents {updates : List (Element × Text)} (hUpdates : updates ≠ [])
      (hDistinct : (updates.map Prod.fst).Nodup)
      (hFound : ∀ u ∈ updates, u.1 ∈ Document.inlineScripts page)
      (hLonger : ∀ u ∈ updates, u.1.content.length < u.2.length) :
      page.length < (Document.replaceContents updates page).length := by
    have hLength := Document.length_replaceContents hDistinct
      (fun u hu => mem_elements_of_mem_inhabited (hFound u hu)) hLonger
    have := List.length_pos_iff.mpr hUpdates
    omega
  cases h with
  | markup => exact absurd (by simp) hPass
  | wrapping => exact absurd (by simp) hPass
  | sheets => exact absurd (by simp) hPass
  | scriptTag hAnswer hRead hHas => exact absurd hAnswer (hUnanswered _ _)
  | shader hAnswer hRead hHas => exact absurd hAnswer (hUnanswered _ _)
  | patched hFound hAnswer hRead hPatches => exact absurd hAnswer (hUnanswered _ _)
  | calls hUpdates hDistinct hFound hNew =>
    refine hContents hUpdates hDistinct hFound fun u hu => ?_
    obtain ⟨hOther, s, s', hRun⟩ := hNew u hu
    exact length_commentOutCalls hUnanswered hRun hOther
  | declared hFound => exact length_replaceContent hFound (length_declareBefore ..)
  | @matched page updates counts hUpdates hDistinct hFound hNew =>
    refine hContents hUpdates hDistinct hFound fun u hu => ?_
    obtain ⟨i, hi, rfl⟩ := List.mem_iff_getElem.mp hu
    have hCounts : i < counts.length := hNew.length_eq ▸ hi
    exact (hNew.get hi hCounts).grows hUnanswered

end Pass

end SketchRepair
