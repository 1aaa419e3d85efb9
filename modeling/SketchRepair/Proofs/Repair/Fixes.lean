import SketchRepair.Proofs.Repair.Edit
import SketchRepair.Proofs.Repair.ScriptTag

/-!
# SketchRepair — what the number of fixes says

The number of fixes of a pass is the sum of what it counts for its edits. A pass that
counts a fix has made an edit; whether its page is another one in the end is a different
question. An edit that puts in an answer's lines may change nothing, and a later edit may
undo an earlier one. Where neither can happen, a fix is there to be seen: behind passes
that make a single edit from what they find or check, and behind every pass that has no
answers to go by.

* `Edits` — edits of a pass, one after the other, with what is counted for all;
* `repair_account` — every standard pass works by its edits, and some by a single one;
* `run_fixes_account` — all that the number of fixes says.
-/

namespace SketchRepair

namespace Pass

open Document (Element)
open Script (MissingFunction parenIssues)

/-- Edits of a pass, one after the other: the page, the fixes counted for all, and the
page behind the last. -/
inductive Edits (team : Collaborators) (pass : Text) : Text → Nat → Text → Prop where
  | done {page : Text} : Edits team pass page 0 page
  | edit {page next last : Text} {n m : Nat} (hFirst : Edit team pass page n next)
      (hRest : Edits team pass next m last) : Edits team pass page (n + m) last

/-- The passes that put in one text after the other; the others make all their changes
in one edit. -/
def iterating : List Text :=
  [scriptTagName, missingFunctionName, undefinedVariableName, shaderName]

/-- How fixes come to be counted for a page that stays as it is. -/
inductive Phantom (team : Collaborators) (pass page : Text) (fixes : Nat) : Prop where
  /-- Patches of lines from an answer leave a script as it is. -/
  | idle {e : Element} (hFound : e ∈ Document.inlineScripts page)
      (hLeaves : LeavesScript team pass e.content)
  /-- An edit makes another page, and those behind it undo that. -/
  | undone {next : Text} {n m : Nat} (hPass : pass ∈ iterating) (hOther : next ≠ page)
      (hEdit : Edit team pass page n next) (hBack : Edits team pass next m page)
      (hCount : n + m = fixes)

variable {team : Collaborators} {pass page next last text : Text} {n m : Nat} {s s' : Progress}

namespace Edits

theorem single (h : Edit team pass page n next) : Edits team pass page n next := .edit h .done

theorem append (h : Edits team pass page n next) (hRest : Edits team pass next m last) :
    Edits team pass page (n + m) last := by
  induction h with
  | done => rwa [Nat.zero_add]
  | edit hFirst _ ih =>
    rw [Nat.add_assoc]
    exact .edit hFirst (ih hRest)

/-- Without answers edits make the page longer. -/
theorem grows (h : Edits team pass page n next) (hUnanswered : Unanswered team)
    (hPass : pass ∉ [markupName, styleTagsName, styleSheetName]) :
    page.length ≤ next.length ∧ (n ≠ 0 → page.length < next.length) := by
  induction h with
  | done => exact ⟨Nat.le_refl _, fun hCount => absurd rfl hCount⟩
  | edit hFirst _ ih =>
    have hHere := (hFirst.grows hUnanswered hPass).trans_le ih.1
    exact ⟨hHere.le, fun _ => hHere⟩

/-- Where edits are counted and the page is the same behind them, the first of them
leaves a script as it is, or makes another page, and the rest undo that. -/
theorem phantom (h : Edits team pass page n page) (hCount : n ≠ 0) (hPass : pass ∈ iterating) :
    Phantom team pass page n := by
  cases h with
  | done => exact absurd rfl hCount
  | @edit _ next _ n m hFirst hRest =>
    by_cases hSame : next = page
    · obtain ⟨e, hFound, hLeaves⟩ := hFirst.leavesScript hSame
      exact .idle hFound hLeaves
    · exact .undone hPass hSame hFirst hRest rfl

end Edits

-- ---------------------------------------------------------------------------
-- Edits of several elements
-- ---------------------------------------------------------------------------

/-- No element is found twice. -/
theorem nodup_inhabited (tag : Document.Tag) (page : Text) :
    (Document.inhabited tag page).Nodup :=
  (Document.nodup_elements tag page).filter _

/-- The updates of a function's calls are for different scripts, in order, and change
each of them. -/
theorem callingScripts_updates {f : MissingFunction} (es : List Element) :
    ∀ {s s' : Progress} {updates : List (Element × Text)},
      callingScripts team f es s = (.ok updates, s') →
        (updates.map Prod.fst).Sublist es ∧ ∀ u ∈ updates, u.2 ≠ u.1.content ∧
          ∃ q q', commentOutCalls team f u.1.content q = (.ok u.2, q') := by
  induction es with
  | nil =>
    intro s s' updates h
    obtain rfl := Run.eq_of_pure_eq_ok h
    exact ⟨.slnil, fun u hu => absurd hu List.not_mem_nil⟩
  | cons e es ih =>
    intro s s' updates h
    rw [callingScripts] at h
    obtain ⟨patched, q, hPatched, h⟩ := Run.exists_of_bind_eq_ok h
    split at h
    · obtain ⟨hSub, hAll⟩ := ih h
      exact ⟨hSub.cons e, hAll⟩
    · next hOther =>
      rw [Run.log_bind_apply] at h
      obtain ⟨rest, q', hRest, h⟩ := Run.exists_of_bind_eq_ok h
      obtain rfl := Run.eq_of_pure_eq_ok h
      obtain ⟨hSub, hAll⟩ := ih hRest
      refine ⟨hSub.cons_cons e, ?_⟩
      rintro u hu
      rcases List.mem_cons.mp hu with rfl | hu
      · exact ⟨hOther, s, q, hPatched⟩
      · exact hAll u hu

/-- A sheet that is repaired differs in more than blanks. -/
theorem repairSheet_differs {e : Element} {details : List Text} {new : Text}
    (h : repairSheet team e details s = (.ok (some new), s')) :
    Stylesheet.differs e.content new = true := by
  have hMend {location css : Text} {q q' : Progress}
      (h : mendSheet location css details q = (.ok (some new), q')) :
      Stylesheet.differs css new = true := by
    unfold mendSheet at h
    split at h
    · next hDiffers =>
      rw [Run.log_bind_apply] at h
      obtain rfl := Option.some.inj (Run.eq_of_pure_eq_ok h)
      exact hDiffers
    · exact absurd (Run.eq_of_pure_eq_ok h) (by simp)
  unfold repairSheet at h
  obtain ⟨found, q, -, h⟩ := Run.exists_of_bind_eq_ok h
  cases found with
  | none => exact hMend h
  | some answer =>
    dsimp only at h
    cases hRead : Prompt.StyleContext.readAnswer answer with
    | noChanges =>
      rw [hRead] at h
      exact absurd (Run.eq_of_pure_eq_ok h) (by simp)
    | unusable =>
      rw [hRead] at h
      dsimp only at h
      rw [Run.log_bind_apply] at h
      exact hMend h
    | corrected css =>
      rw [hRead] at h
      dsimp only at h
      split at h
      · next hDiffers =>
        rw [Run.log_bind_apply] at h
        obtain rfl := Option.some.inj (Run.eq_of_pure_eq_ok h)
        have hBreak : ∀ c ∈ ['\n'], isBlank c = true := List.all_eq_true.mp (by decide)
        have hIndent : ∀ c ∈ "\n    ".toList, isBlank c = true := List.all_eq_true.mp (by decide)
        unfold Stylesheet.differs at hDiffers ⊢
        rwa [Text.squeeze_padded hBreak hIndent]
      · exact absurd (Run.eq_of_pure_eq_ok h) (by simp)

theorem repairSheets_updates (es : List Element) :
    ∀ {s s' : Progress} {updates : List (Element × Text)},
      repairSheets team es s = (.ok updates, s') →
        (updates.map Prod.fst).Sublist es ∧
          ∀ u ∈ updates, Stylesheet.differs u.1.content u.2 = true := by
  induction es with
  | nil =>
    intro s s' updates h
    obtain rfl := Run.eq_of_pure_eq_ok h
    exact ⟨.slnil, fun u hu => absurd hu List.not_mem_nil⟩
  | cons e es ih =>
    intro s s' updates h
    have hSkip {q : Progress} (h : repairSheets team es q = (.ok updates, s')) :
        (updates.map Prod.fst).Sublist (e :: es) ∧
          ∀ u ∈ updates, Stylesheet.differs u.1.content u.2 = true :=
      ⟨(ih h).1.cons e, (ih h).2⟩
    rw [repairSheets] at h
    split at h
    · obtain ⟨found, q, hSheet, h⟩ := Run.exists_of_bind_eq_ok h
      cases found with
      | none => exact hSkip h
      | some css =>
        obtain ⟨rest, q', hRest, h⟩ := Run.exists_of_bind_eq_ok h
        obtain rfl := Run.eq_of_pure_eq_ok h
        obtain ⟨hSub, hAll⟩ := ih hRest
        refine ⟨hSub.cons_cons e, ?_⟩
        rintro u hu
        rcases List.mem_cons.mp hu with rfl | hu
        · exact repairSheet_differs hSheet
        · exact hAll u hu
    · exact hSkip h

theorem matchIn_matched {script new : Text} (hIssues : parenIssues script ≠ [])
    (h : matchIn team script (parenIssues script) s = (.ok (new, n), s')) :
    Matched team script new n := by
  have hMended {q : Progress} (h : (pure (Script.mendParens script (parenIssues script),
      (parenIssues script).length) : Run (Text × Nat)) q = (.ok (new, n), s')) :
      Matched team script new n := by
    obtain ⟨rfl, rfl⟩ := Prod.mk.inj (Run.eq_of_pure_eq_ok h)
    exact .mended hIssues
  unfold matchIn at h
  obtain ⟨found, q, hAsk, h⟩ := Run.exists_of_bind_eq_ok h
  cases found with
  | none => exact hMended h
  | some answer =>
    obtain ⟨patches, q', hPatches, h⟩ := Run.exists_of_bind_eq_ok h
    obtain ⟨_, q'', -, h⟩ := Run.exists_of_bind_eq_ok h
    split at h
    · next hSuccess =>
      obtain ⟨rfl, rfl⟩ := Prod.mk.inj (Run.eq_of_pure_eq_ok h)
      refine .patched (Run.exists_oracle_of_ask hAsk) (Run.eq_ok_of_ofExcept hPatches) rfl ?_
      simpa [Patch.LineOutcome.isSuccess] using hSuccess
    · exact hMended h

theorem matchAll_updates (es : List Element) :
    ∀ {s s' : Progress} {updates : List (Element × Text)} {n : Nat},
      matchAll team es s = (.ok (updates, n), s') →
        (updates.map Prod.fst).Sublist es ∧ ∃ counts, counts.sum = n ∧
          List.Forall₂ (fun u n => Matched team u.1.content u.2 n) updates counts := by
  induction es with
  | nil =>
    intro s s' updates n h
    obtain ⟨rfl, rfl⟩ := Prod.mk.inj (Run.eq_of_pure_eq_ok h)
    exact ⟨.slnil, [], rfl, .nil⟩
  | cons e es ih =>
    intro s s' updates n h
    have hSkip {q : Progress} (h : matchAll team es q = (.ok (updates, n), s')) :
        (updates.map Prod.fst).Sublist (e :: es) ∧ ∃ counts, counts.sum = n ∧
          List.Forall₂ (fun u n => Matched team u.1.content u.2 n) updates counts :=
      ⟨(ih h).1.cons e, (ih h).2⟩
    rw [matchAll] at h
    dsimp only at h
    split at h
    · exact hSkip h
    · next hIssues =>
      obtain ⟨⟨fixed, k⟩, q, hMatched, h⟩ := Run.exists_of_bind_eq_ok h
      dsimp only at h
      split at h
      · exact hSkip h
      · rw [Run.log_bind_apply] at h
        obtain ⟨⟨rest, m⟩, q', hRest, h⟩ := Run.exists_of_bind_eq_ok h
        obtain ⟨rfl, rfl⟩ := Prod.mk.inj (Run.eq_of_pure_eq_ok h)
        obtain ⟨hSub, counts, rfl, hAll⟩ := ih hRest
        refine ⟨hSub.cons_cons e, k :: counts, rfl, .cons ?_ hAll⟩
        exact matchIn_matched (by simpa using hIssues) hMatched

-- ---------------------------------------------------------------------------
-- Passes that put in one text after the other
-- ---------------------------------------------------------------------------

/-- Suggestions that are used are edits. -/
theorem Used.edits {us fixes : List (Element × Text)} (h : Used page us fixes)
    (hGiven : ∀ u ∈ us, ∃ error answer,
      Answers team (Prompt.ScriptTagContext.request ⟨u.1.text, error⟩) answer ∧
        Prompt.ScriptTagContext.readAnswer ⟨u.1.text, error⟩ answer = some u.2) :
    Edits team scriptTagName page fixes.length (Document.inTurn page fixes) := by
  induction h with
  | done => exact .done
  | @used page u us fixes hHas _ ih =>
    obtain ⟨⟨error, answer, hAnswer, hRead⟩, hLater⟩ := List.forall_mem_cons.mp hGiven
    rw [List.length_cons, Nat.add_comm]
    exact .edit (.scriptTag hAnswer hRead hHas) (ih hLater)
  | gone _ _ ih => exact ih (List.forall_mem_cons.mp hGiven).2

theorem replaceScriptTags_edits {source : Element → Option Text} (failed : List (Element × Text))
    {page : Text} {s s' : Progress} {last : Text} {n : Nat}
    (h : replaceScriptTags source team page failed s = (.ok (last, n), s')) :
    Edits team scriptTagName page n last := by
  rcases replaceScriptTags_run failed page s with
    ⟨oracle, k, request, text, q, -, -, hFails⟩ | ⟨fixes, q, hRun, hUsed⟩
  · rw [h] at hFails
    simp at hFails
  · rw [h] at hRun
    obtain ⟨rfl, rfl⟩ : last = Document.inTurn page fixes ∧ n = fixes.length := by
      simpa using (Prod.mk.inj hRun).1
    exact hUsed.edits fun u hu => exists_answer_of_mem_suggestions hu

theorem replaceShaders_edits {source error : Text} (places : List (Nat × Nat)) :
    ∀ {page : Text} {s s' : Progress} {last : Text} {n : Nat},
      replaceShaders team source error page places s = (.ok (last, n), s') →
        Edits team shaderName page n last := by
  induction places with
  | nil =>
    intro page s s' last n h
    obtain ⟨rfl, rfl⟩ := Prod.mk.inj (Run.eq_of_pure_eq_ok h)
    exact .done
  | cons place rest ih =>
    intro page s s' last n h
    rw [replaceShaders] at h
    dsimp only at h
    obtain ⟨found, q, hAsk, h⟩ := Run.exists_of_bind_eq_ok h
    cases found with
    | none => exact ih h
    | some answer =>
      dsimp only at h
      cases hRead : Prompt.ShaderContext.readAnswer ⟨Text.between place source, error⟩ answer with
      | none =>
        rw [hRead] at h
        exact ih h
      | some fixed =>
        rw [hRead] at h
        dsimp only at h
        split at h
        · next hHas =>
          rw [Run.log_bind_apply] at h
          obtain ⟨⟨final, m⟩, q', hRest, h⟩ := Run.exists_of_bind_eq_ok h
          obtain ⟨rfl, rfl⟩ := Prod.mk.inj (Run.eq_of_pure_eq_ok h)
          rw [Nat.add_comm]
          exact .edit (.shader (Run.exists_oracle_of_ask hAsk) hRead hHas) (ih hRest)
        · exact ih h

theorem commentOutFunctions_edits (fs : List MissingFunction) :
    ∀ {page : Text} {s s' : Progress} {last : Text} {n : Nat},
      commentOutFunctions team page fs s = (.ok (last, n), s') →
        Edits team missingFunctionName page n last := by
  induction fs with
  | nil =>
    intro page s s' last n h
    obtain ⟨rfl, rfl⟩ := Prod.mk.inj (Run.eq_of_pure_eq_ok h)
    exact .done
  | cons f fs ih =>
    intro page s s' last n h
    rw [commentOutFunctions] at h
    obtain ⟨updates, q, hUpdates, h⟩ := Run.exists_of_bind_eq_ok h
    obtain ⟨⟨final, m⟩, q', hRest, h⟩ := Run.exists_of_bind_eq_ok h
    obtain ⟨rfl, rfl⟩ := Prod.mk.inj (Run.eq_of_pure_eq_ok h)
    obtain ⟨hSub, hNew⟩ := callingScripts_updates _ hUpdates
    by_cases hNone : updates = []
    · subst hNone
      have hSame : Document.replaceContents [] page = page := by
        rw [Document.replaceContents, List.mergeSort_nil]
        rfl
      rw [hSame] at hRest
      exact ih hRest
    · rw [Nat.add_comm]
      refine .edit (.calls hNone (hSub.nodup (nodup_inhabited _ _)) ?_ hNew) (ih hRest)
      exact fun u hu => hSub.subset (List.mem_map_of_mem hu)

/-- A visit to a script makes one edit, or none. -/
theorem defineInElement_edits {v : Page.UndefinedVariable} {e : Element}
    (hFound : e ∈ Document.inlineScripts page)
    (h : defineInElement team v e page s = (.ok (next, n), s')) :
    Edits team undefinedVariableName page n next := by
  have hStay {q : Progress} (h : (pure (page, 0) : Run (Text × Nat)) q = (.ok (next, n), s')) :
      Edits team undefinedVariableName page n next := by
    obtain ⟨rfl, rfl⟩ := Prod.mk.inj (Run.eq_of_pure_eq_ok h)
    exact .done
  unfold defineInElement at h
  split at h
  · obtain ⟨⟨fixed, k⟩, q, hDefine, h⟩ := Run.exists_of_bind_eq_ok h
    dsimp only at h
    split at h
    · exact hStay h
    · next hCount =>
      rw [Run.log_bind_apply] at h
      obtain ⟨rfl, rfl⟩ := Prod.mk.inj (Run.eq_of_pure_eq_ok h)
      unfold defineIn at hDefine
      cases hDeclared : Script.conditionalDeclaration? v.name e.content with
      | some declaration =>
        rw [hDeclared] at hDefine
        obtain ⟨rfl, rfl⟩ := Prod.mk.inj (Run.eq_of_pure_eq_ok hDefine)
        exact .single (.declared hFound)
      | none =>
        rw [hDeclared] at hDefine
        obtain ⟨found, q', hAsk, hDefine⟩ := Run.exists_of_bind_eq_ok hDefine
        cases found with
        | none =>
          obtain ⟨rfl, rfl⟩ := Prod.mk.inj (Run.eq_of_pure_eq_ok hDefine)
          exact .single (.declared hFound)
        | some answer =>
          obtain ⟨patches, q'', hPatches, hDefine⟩ := Run.exists_of_bind_eq_ok hDefine
          split at hDefine
          · rw [Run.log_bind_apply] at hDefine
            obtain ⟨-, rfl⟩ := Prod.mk.inj (Run.eq_of_pure_eq_ok hDefine)
            exact absurd rfl hCount
          · next hSome =>
            obtain ⟨rfl, rfl⟩ := Prod.mk.inj (Run.eq_of_pure_eq_ok hDefine)
            exact .single (.patched hFound (Run.exists_oracle_of_ask hAsk)
              (Run.eq_ok_of_ofExcept hPatches) (by simpa using hSome))
  · exact hStay h

/-- A turn makes the edits of its visits. -/
theorem Turn.edits {v : Page.UndefinedVariable} {i : Nat} {ws : List Visit}
    {out : Option (Except Abort (Text × Nat))} (h : Turn team v i page s ws out s')
    (hOver : out = some (.ok (last, n))) : Edits team undefinedVariableName page n last := by
  induction h generalizing last n with
  | soFar => exact absurd hOver (by simp)
  | finished h =>
    obtain ⟨rfl, rfl⟩ := Prod.mk.inj (Except.ok.inj (Option.some.inj hOver))
    exact .done
  | aborted h hVisit => exact absurd hOver (by simp)
  | visited h hVisit hRest ih =>
    obtain ⟨rest, hRestOver, hRest⟩ := Option.map_eq_some_iff.mp hOver
    obtain ⟨⟨_, m⟩, rfl, hSum⟩ := behindFixes_eq_ok_iff.mp hRest
    obtain ⟨rfl, rfl⟩ := Prod.mk.inj hSum
    exact (defineInElement_edits (List.mem_of_getElem? h) hVisit).append (ih hRestOver)

theorem defineTurn_edits {v : Page.UndefinedVariable}
    (h : defineTurn team v page s = (.ok (last, n), s')) :
    Edits team undefinedVariableName page n last := by
  cases hTurn : defineFrom team v 0 page s with
  | some out =>
    obtain ⟨ws, hRules⟩ := exists_turn hTurn
    rw [defineTurn, Run.ofLoop_of_some hTurn] at h
    rw [h] at hRules
    exact hRules.edits rfl
  | none =>
    -- nothing comes of the turn, and its page stands in for the outcome
    rw [defineTurn, Run.ofLoop_of_none hTurn] at h
    obtain ⟨rfl, rfl⟩ := Prod.mk.inj (Except.ok.inj (Prod.mk.inj h).1)
    exact .done

theorem defineAll_edits (vs : List Page.UndefinedVariable) :
    ∀ {page : Text} {s s' : Progress} {last : Text} {n : Nat},
      defineAll team page vs s = (.ok (last, n), s') →
        Edits team undefinedVariableName page n last := by
  induction vs with
  | nil =>
    intro page s s' last n h
    obtain ⟨rfl, rfl⟩ := Prod.mk.inj (Run.eq_of_pure_eq_ok h)
    exact .done
  | cons v vs ih =>
    intro page s s' last n h
    rw [defineAll] at h
    obtain ⟨⟨next, k⟩, q, hTurn, h⟩ := Run.exists_of_bind_eq_ok h
    obtain ⟨⟨final, m⟩, q', hRest, h⟩ := Run.exists_of_bind_eq_ok h
    obtain ⟨rfl, rfl⟩ := Prod.mk.inj (Run.eq_of_pure_eq_ok h)
    exact (defineTurn_edits hTurn).append (ih hRest)

-- ---------------------------------------------------------------------------
-- Passes
-- ---------------------------------------------------------------------------

/-- What a pass does to a page: its edits, one after the other; and a single edit if it
makes all its changes at once. -/
structure Repaired (team : Collaborators) (pass page : Text) (n : Nat) (next : Text) : Prop where
  edits : Edits team pass page n next
  single : pass ∉ iterating → Edit team pass page n next

theorem Repaired.ofEdit (h : Edit team pass page n next) : Repaired team pass page n next :=
  ⟨.single h, fun _ => h⟩

theorem Repaired.ofEdits (h : Edits team pass page n next) (hPass : pass ∈ iterating) :
    Repaired team pass page n next :=
  ⟨h, fun hNot => absurd hPass hNot⟩

theorem textual_eq {words : Nat → Text} {mend : Text → Text × Nat}
    (h : textual pass words mend team page s = (.ok (next, n), s')) : mend page = (next, n) := by
  unfold textual at h
  dsimp only at h
  split at h
  · rw [Run.log_bind_apply] at h
    exact Run.eq_of_pure_eq_ok h
  · exact Run.eq_of_pure_eq_ok h

/-- A pass that runs the page has an executor if it counts a fix, and goes on with the
events. -/
theorem exists_events_of_counted {name : Text} {settle : Option Int}
    {f : List Page.Event → Run (Text × Nat)}
    (h : (match team.executor with
      | none => do
        Run.log (.patchSkipped name "no page executor configured".toList)
        return (page, 0)
      | some executor => do
        let events ← Run.execute executor page settle
        f events : Run (Text × Nat)) s = (.ok (next, n), s')) (hCount : n ≠ 0) :
    ∃ events q, f events q = (.ok (next, n), s') := by
  cases hExecutor : team.executor with
  | none =>
    rw [hExecutor] at h
    dsimp only at h
    rw [Run.log_bind_apply] at h
    exact absurd (Prod.mk.inj (Run.eq_of_pure_eq_ok h)).2.symm hCount
  | some executor =>
    rw [hExecutor] at h
    obtain ⟨events, q, -, h⟩ := Run.exists_of_bind_eq_ok h
    exact ⟨events, q, h⟩

/-- Every standard pass works by its edits. -/
theorem repair_account {p : Pass} (hPass : p ∈ Pipeline.standard)
    (h : p.repair team page s = (.ok (next, n), s')) (hCount : n ≠ 0) :
    Repaired team p.name page n next := by
  have hNothing {q : Progress} (h : (pure (page, 0) : Run (Text × Nat)) q = (.ok (next, n), s')) :
      Repaired team p.name page n next :=
    absurd (Prod.mk.inj (Run.eq_of_pure_eq_ok h)).2.symm hCount
  simp only [Pipeline.standard, List.mem_cons, List.not_mem_nil, or_false] at hPass
  rcases hPass with rfl | rfl | rfl | rfl | rfl | rfl | rfl | rfl
  · unfold markup at h
    dsimp only at h
    exact .ofEdit (.markup (textual_eq h) hCount)
  · unfold styleTags at h
    dsimp only at h
    exact .ofEdit (.wrapping (textual_eq h) hCount)
  · obtain ⟨events, q, h⟩ := exists_events_of_counted h hCount
    exact .ofEdits (replaceScriptTags_edits _ h) (by decide)
  · obtain ⟨events, q, h⟩ := exists_events_of_counted h hCount
    exact .ofEdits (commentOutFunctions_edits _ h) (by decide)
  · obtain ⟨updates, q, hUpdates, h⟩ := Run.exists_of_bind_eq_ok h
    obtain ⟨rfl, rfl⟩ := Prod.mk.inj (Run.eq_of_pure_eq_ok h)
    obtain ⟨hSub, hNew⟩ := repairSheets_updates _ hUpdates
    exact .ofEdit (.sheets (List.length_pos_iff.mp (Nat.pos_of_ne_zero hCount))
      (hSub.nodup (nodup_inhabited _ _)) (fun u hu => hSub.subset (List.mem_map_of_mem hu)) hNew)
  · unfold undefinedVariable at h
    dsimp only at h
    split at h
    · exact hNothing h
    · obtain ⟨events, q, h⟩ := exists_events_of_counted h hCount
      obtain ⟨faults, q', -, h⟩ := Run.exists_of_bind_eq_ok h
      exact .ofEdits (defineAll_edits _ h) (by decide)
  · obtain ⟨⟨updates, k⟩, q, hUpdates, h⟩ := Run.exists_of_bind_eq_ok h
    obtain ⟨rfl, rfl⟩ := Prod.mk.inj (Run.eq_of_pure_eq_ok h)
    obtain ⟨hSub, counts, rfl, hNew⟩ := matchAll_updates _ hUpdates
    have hSome : updates ≠ [] := by
      rintro rfl
      cases hNew
      exact hCount rfl
    exact .ofEdit (.matched hSome (hSub.nodup (nodup_inhabited _ _))
      (fun u hu => hSub.subset (List.mem_map_of_mem hu)) hNew)
  · obtain ⟨events, q, h⟩ := exists_events_of_counted h hCount
    cases hErrors : Page.shaderErrors events with
    | nil =>
      rw [hErrors] at h
      exact hNothing h
    | cons error rest =>
      rw [hErrors] at h
      exact .ofEdits (replaceShaders_edits _ h) (by decide)

/-- A pass that yields a result keeps its page when it counts nothing, and yields what
its repair made otherwise. -/
theorem run_cases {p : Pass} {r : PassResult} (h : p.run team page s = (.ok r, s')) :
    (r.fixes = 0 ∧ r.page = page) ∨
      r.fixes ≠ 0 ∧ ∃ q q', p.repair team page q = (.ok (r.page, r.fixes), q') := by
  unfold run at h
  split at h
  · rw [Run.log_bind_apply] at h
    obtain ⟨⟨fixed, n⟩, q, hRepair, h⟩ := Run.exists_of_bind_eq_ok h
    dsimp only at h
    rw [Run.log_bind_apply] at h
    obtain rfl := Run.eq_of_pure_eq_ok h
    by_cases hCount : n = 0
    · exact .inl ⟨hCount, if_pos hCount⟩
    · refine .inr ⟨hCount, _, q, hRepair.trans ?_⟩
      dsimp only
      rw [if_neg hCount]
  · rw [Run.log_bind_apply] at h
    obtain rfl := Run.eq_of_pure_eq_ok h
    exact .inl ⟨rfl, rfl⟩

/-- **What the number of fixes says**: it is the sum of what a standard pass counts for
its edits, and without a fix the page stays as it is. With fixes the page is another one,
except that an answer's patches of lines may leave a script as it is, or edits of a pass
that makes several of them may undo each other. Neither happens without answers, nor to
the passes that restore markup, wrap bare CSS, or repair style sheets. -/
theorem run_fixes_account {p : Pass} {r : PassResult} (hPass : p ∈ Pipeline.standard)
    (h : p.run team page s = (.ok r, s')) :
    Edits team p.name page r.fixes r.page ∧
      (r.fixes = 0 → r.page = page) ∧
      (r.fixes ≠ 0 → r.page = page → Phantom team p.name page r.fixes ∧ ¬ Unanswered team) ∧
      (r.fixes ≠ 0 → p.name ∈ [markupName, styleTagsName, styleSheetName] → r.page ≠ page) := by
  rcases run_cases h with ⟨hNone, hPage⟩ | ⟨hCount, q, q', hRepair⟩
  · rw [hNone, hPage]
    exact ⟨.done, fun _ => rfl, fun hCount => absurd rfl hCount, fun hCount => absurd rfl hCount⟩
  · obtain ⟨hEdits, hSingle⟩ := repair_account hPass hRepair hCount
    have hPhantom (hSame : r.page = page) : Phantom team p.name page r.fixes := by
      by_cases hIterating : p.name ∈ iterating
      · rw [hSame] at hEdits
        exact hEdits.phantom hCount hIterating
      · obtain ⟨e, hFound, hLeaves⟩ := (hSingle hIterating).leavesScript hSame
        exact .idle hFound hLeaves
    have hShown (hName : p.name ∈ [markupName, styleTagsName, styleSheetName]) :
        r.page ≠ page := by
      intro hSame
      cases hPhantom hSame with
      | idle hFound hLeaves =>
        generalize p.name = name at hName hLeaves
        cases hLeaves <;> exact absurd hName (by decide)
      | undone hIterating =>
        generalize p.name = name at hName hIterating
        revert name
        decide
    refine ⟨hEdits, fun hNone => absurd hNone hCount, fun _ hSame => ⟨hPhantom hSame, ?_⟩,
      fun _ => hShown⟩
    intro hUnanswered
    by_cases hName : p.name ∈ [markupName, styleTagsName, styleSheetName]
    · exact hShown hName hSame
    · have hLength := (hEdits.grows hUnanswered hName).2 hCount
      rw [hSame] at hLength
      exact absurd hLength (Nat.lt_irrefl _)

/-- A page with a call that is left open. -/
def openCallPage : Text := Document.oneScript [] "f(1;".toList

theorem elements_openCallPage : Document.elements .script openCallPage =
    [⟨.script, "<script>".toList, "f(1;".toList, "</script>".toList, 0, 1⟩] :=
  Document.elements_oneScript (by decide) (by decide)

/-- A patch that puts the line of the call in its own place, and an answer that
proposes it. -/
def sameLine : Patch.LinePatch := ⟨1, "f(1;".toList, "f(1;".toList, []⟩

def sameLineAnswer : Text :=
  "[\x7b\"lineNumber\": 1, \"original\": \"f(1;\", \"fixed\": \"f(1;\"\x7d]".toList

theorem readAnswer_sameLine :
    Prompt.ParenContext.readAnswer sameLineAnswer = .ok [sameLine] := by
  have hOption : (Prompt.ParenContext.readAnswer sameLineAnswer).toOption = some [sameLine] := by
    decide +kernel
  cases hAnswer : Prompt.ParenContext.readAnswer sameLineAnswer with
  | error e =>
    rw [hAnswer] at hOption
    simp [Except.toOption] at hOption
  | ok patches =>
    rw [hAnswer] at hOption
    simpa [Except.toOption] using hOption

theorem matchIn_sameLine (s : Progress) : ∃ s',
    matchIn ⟨some fun _ _ => .answer sameLineAnswer, none⟩ "f(1;".toList [⟨.missingClose, 1⟩] s =
      (.ok ("f(1;".toList, 1), s') := by
  have hOutcome : Patch.applyLinePatches similarityThreshold "f(1;".toList [sameLine]
      [⟨.missingClose, 1⟩] = ⟨["f(1;".toList], [sameLine], []⟩ := rfl
  unfold matchIn
  rw [Run.bind_of_ok _ (Run.ask_of_answer rfl)]
  dsimp only
  rw [Run.bind_of_ok _ (Run.ofExcept_of_ok readAnswer_sameLine _), hOutcome]
  exact ⟨_, rfl⟩

theorem run_openCallPage : ∃ s', parenthesis.run ⟨some fun _ _ => .answer sameLineAnswer, none⟩
    openCallPage .initial = (.ok ⟨parenthesisName, openCallPage, 1, false, none⟩, s') := by
  have hScripts : Document.inlineScripts openCallPage =
      [⟨.script, "<script>".toList, "f(1;".toList, "</script>".toList, 0, 1⟩] := by
    rw [Document.inlineScripts, Document.inhabited, elements_openCallPage]
    rfl
  have hIssues : parenIssues "f(1;".toList = [⟨.missingClose, 1⟩] := by decide
  obtain ⟨s₁, hMatched⟩ := matchIn_sameLine (Progress.initial.noting (.passStarted parenthesisName))
  have hUpdates : ∃ s₂, matchAll ⟨some fun _ _ => .answer sameLineAnswer, none⟩
      (Document.inlineScripts openCallPage)
      (Progress.initial.noting (.passStarted parenthesisName)) =
        (.ok ([(⟨.script, "<script>".toList, "f(1;".toList, "</script>".toList, 0, 1⟩,
          "f(1;".toList)], 1), s₂) := by
    rw [hScripts, matchAll]
    dsimp only
    rw [hIssues, if_neg (by decide), Run.bind_of_ok _ hMatched]
    exact ⟨_, rfl⟩
  obtain ⟨s₂, hUpdates⟩ := hUpdates
  have hPage : Document.replaceContents
      [(⟨.script, "<script>".toList, "f(1;".toList, "</script>".toList, 0, 1⟩, "f(1;".toList)]
      openCallPage = openCallPage := by
    rw [← replaceContent_eq]
    rfl
  have hRepair : parenthesis.repair ⟨some fun _ _ => .answer sameLineAnswer, none⟩ openCallPage
      (Progress.initial.noting (.passStarted parenthesisName)) = (.ok (openCallPage, 1), s₂) := by
    refine Run.bind_eq_of_ok hUpdates ?_
    dsimp only
    rw [hPage]
    rfl
  exact ⟨_, run_of_ok rfl hRepair⟩

theorem run_fixes_account_openCall : ∃ s',
    parenthesis ∈ Pipeline.standard ∧
    parenthesis.run ⟨some fun _ _ => .answer sameLineAnswer, none⟩ openCallPage .initial =
      (.ok ⟨parenthesisName, openCallPage, 1, false, none⟩, s') ∧
    Edits ⟨some fun _ _ => .answer sameLineAnswer, none⟩ parenthesisName openCallPage 1
      openCallPage ∧
    (1 = 0 → openCallPage = openCallPage) ∧
    (1 ≠ 0 → openCallPage = openCallPage →
      Phantom ⟨some fun _ _ => .answer sameLineAnswer, none⟩ parenthesisName openCallPage 1 ∧
        ¬ Unanswered ⟨some fun _ _ => .answer sameLineAnswer, none⟩) ∧
    (1 ≠ 0 → parenthesisName ∈ [markupName, styleTagsName, styleSheetName] →
      openCallPage ≠ openCallPage) := by
  have hPass : parenthesis ∈ Pipeline.standard := by simp [Pipeline.standard]
  obtain ⟨s', hRun⟩ := run_openCallPage
  exact ⟨s', hPass, hRun, run_fixes_account hPass hRun⟩

end Pass

end SketchRepair
