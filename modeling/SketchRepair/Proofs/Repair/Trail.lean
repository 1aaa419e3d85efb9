import SketchRepair.Proofs.Repair.UndefinedVariable
import SketchRepair.Proofs.Repair.Work
import SketchRepair.Repair.Pipeline

/-!
# SketchRepair — what a pass puts on record

The audit trail is only worth something if it can be attributed: what a pass reports
while it works stands behind everything reported before, carries the name of that
pass, and is about its work. That it has started and that it has ended is not for the
pass itself to say. And the trail is only worth something if it is complete: where fixes
are counted, a fix is on record.

* `Run.Writes`, `Pass.WritesOwn` — a pass that reports on its own work only;
* `Pass.Traces` — a pass whose fixes on record agree with those it counts;
* `standard_traces`, `standard_writesOwn` — every standard pass is like that.
-/

namespace SketchRepair

/-- Is the record about the work of the pass with this name: a fix, something left as
it was, or an exchange with the oracle? -/
def Record.IsWork (pass : Text) : Record → Prop
  | .fixApplied p .. => p = pass
  | .patchSkipped p _ => p = pass
  | .oracleRequest p .. => p = pass
  | .oracleResponse p .. => p = pass
  | .passStarted _ => False
  | .passCompleted .. => False
  | .runSummary .. => False

section Work

variable {oracle : Option Oracle} {pass : Text} {n m : Nat} {work : List Record}

theorem Work.isWork (h : Work oracle pass n work m) : ∀ r ∈ work, r.IsWork pass := by
  induction h with
  | nothing => simp
  | fixed _ _ _ _ ih => exact List.forall_mem_cons.mpr ⟨rfl, ih⟩
  | left _ _ ih => exact List.forall_mem_cons.mpr ⟨rfl, ih⟩
  | answered _ _ _ ih =>
    exact List.forall_mem_cons.mpr ⟨rfl, List.forall_mem_cons.mpr ⟨rfl, ih⟩⟩
  | unanswered _ _ _ ih =>
    exact List.forall_mem_cons.mpr ⟨rfl, List.forall_mem_cons.mpr ⟨rfl, ih⟩⟩

theorem Interrupted.isWork {cause : Abort} (h : Interrupted oracle pass n work cause m) :
    ∀ r ∈ work, r.IsWork pass := by
  cases h with
  | failed hWork =>
    refine List.forall_mem_append.mpr ⟨hWork.isWork, ?_⟩
    exact List.forall_mem_singleton.mpr rfl
  | unreadable _ hWork =>
    refine List.forall_mem_append.mpr ⟨hWork.isWork, ?_⟩
    exact List.forall_mem_cons.mpr ⟨rfl, List.forall_mem_singleton.mpr rfl⟩

end Work

/-- Whatever becomes of it, a step adds records behind the others, and each of them
has `P`. -/
def Run.Writes {α : Type} (P : Record → Prop) (x : Run α) : Prop :=
  ∀ s, ∃ added, (x s).2.records = s.records ++ added ∧ ∀ r ∈ added, P r

theorem Run.Writes.nothing {α : Type} {P : Record → Prop} {x : Run α}
    (h : ∀ s, (x s).2.records = s.records) : Writes P x := by
  intro s
  refine ⟨[], ?_, ?_⟩
  · rw [h s, List.append_nil]
  · intro r hr
    simp at hr

-- ---------------------------------------------------------------------------
-- Steps of the standard passes
-- ---------------------------------------------------------------------------

namespace Pass

open Run (Counts FixesNothing Tallies)

variable (team : Collaborators)

theorem textual_traces (oracle : Option Oracle) (name : Text) (words : Nat → Text)
    (mend : Text → Text × Nat) (page : Text) :
    Tallies oracle name (textual name words mend team page) := by
  unfold textual
  dsimp only
  split
  · next hCount => exact .fixThen (.ofPure (Tallied.one hCount))
  · next hCount =>
    have hZero : (mend page).2 = 0 := Decidable.not_not.mp hCount
    refine .ofPure ?_
    show Tallied 0 (mend page).2
    rw [hZero]
    exact .same 0

theorem replaceScriptTag_traces (source : Document.Element → Option Text) (page : Text)
    (e : Document.Element) (error : Text) :
    Run.Traces team.oracle scriptTagName (fun k (r : Text × Bool) => k = r.2.toNat)
      (replaceScriptTag source team page e error) := by
  refine .askThen (.ofPure rfl) ?_
  intro text
  dsimp only
  split
  · split
    · exact .fixThen (.ofPure rfl)
    · exact .noteThen (.ofPure rfl)
  · exact .noteThen (.ofPure rfl)

theorem replaceScriptTags_traces (source : Document.Element → Option Text)
    (problems : List (Document.Element × Text)) :
    ∀ page, Counts team.oracle scriptTagName (replaceScriptTags source team page problems) := by
  induction problems with
  | nil => exact fun _ => .ofPure rfl
  | cons problem rest ih =>
    intro page
    refine .bind (replaceScriptTag_traces team source page problem.1 problem.2) ?_
    rintro k ⟨page, replaced⟩ hHere
    refine .bind (ih page) ?_
    rintro l ⟨page, n⟩ hRest
    refine .ofPure ?_
    dsimp only at hHere hRest ⊢
    omega

theorem accepted_traces (oracle : Option Oracle) (lines : List Text)
    (patches : List Patch.BlockPatch) :
    FixesNothing oracle missingFunctionName (accepted lines patches) := by
  induction patches with
  | nil => exact .ofPure rfl
  | cons p ps ih =>
    unfold accepted
    split
    · exact .noteThen ih
    · refine .bind ih ?_
      intro k chosen hNone
      exact .ofPure hNone

theorem blockPatches_traces (oracle : Option Oracle) (lines : List Text)
    (f : Script.MissingFunction) (blocks : List Script.Span) (proposed : List Patch.BlockPatch) :
    FixesNothing oracle missingFunctionName (blockPatches lines f blocks proposed) := by
  refine .bind (accepted_traces oracle lines proposed) ?_
  intro k chosen hFirst
  refine .bind (accepted_traces oracle lines _) ?_
  intro l mechanical hSecond
  refine .ofPure ?_
  omega

theorem commentOutCalls_traces (f : Script.MissingFunction) (script : Text) :
    FixesNothing team.oracle missingFunctionName (commentOutCalls team f script) := by
  have hPatches (proposed : List Patch.BlockPatch) :
      FixesNothing team.oracle missingFunctionName (do
        let patches ← blockPatches (Text.lines script) f
          ((f.callLines (Text.lines script)).map fun n =>
            Script.blockAround (Text.lines script) (n - 1)) proposed
        return (Patch.applyBlockPatches script patches).1) := by
    refine .bind (blockPatches_traces _ _ _ _ _) ?_
    intro k patches hNone
    exact .ofPure hNone
  unfold commentOutCalls
  dsimp only
  split
  · exact .ofPure rfl
  · refine .askReadThen (hPatches []) ?_
    intro text s
    exact Run.Traces.readThen hPatches s

theorem callingScripts_traces (f : Script.MissingFunction) (es : List Document.Element) :
    Run.Traces team.oracle missingFunctionName (fun k updates => k = updates.length)
      (callingScripts team f es) := by
  induction es with
  | nil => exact .ofPure rfl
  | cons e es ih =>
    refine .bind (commentOutCalls_traces team f e.content) ?_
    rintro k patched rfl
    split
    · exact ih.mono fun k updates h => by omega
    · refine .fixThen (.bind ih ?_)
      intro l updates hRest
      refine .ofPure ?_
      rw [List.length_cons]
      omega

theorem commentOutFunctions_traces (fs : List Script.MissingFunction) :
    ∀ page, Counts team.oracle missingFunctionName (commentOutFunctions team page fs) := by
  induction fs with
  | nil => exact fun _ => .ofPure rfl
  | cons f fs ih =>
    intro page
    refine .bind (callingScripts_traces team f _) ?_
    intro k updates hHere
    refine .bind (ih _) ?_
    rintro l ⟨page, n⟩ hRest
    refine .ofPure ?_
    dsimp only at hRest ⊢
    omega

theorem mendSheet_traces (oracle : Option Oracle) (location css : Text) (details : List Text) :
    Run.Traces oracle styleSheetName (fun k (r : Option Text) => k = r.toList.length)
      (mendSheet location css details) := by
  unfold mendSheet
  dsimp only
  split
  · exact .fixThen (.ofPure rfl)
  · exact .ofPure rfl

theorem repairSheet_traces (e : Document.Element) (details : List Text) :
    Run.Traces team.oracle styleSheetName (fun k (r : Option Text) => k = r.toList.length)
      (repairSheet team e details) := by
  refine .askThen (mendSheet_traces _ _ _ _) ?_
  intro text
  dsimp only
  split
  · exact .ofPure rfl
  · split
    · exact .fixThen (.ofPure rfl)
    · exact .ofPure rfl
  · exact .noteThen (mendSheet_traces _ _ _ _)

theorem repairSheets_traces (es : List Document.Element) :
    Run.Traces team.oracle styleSheetName (fun k updates => k = updates.length)
      (repairSheets team es) := by
  induction es with
  | nil => exact .ofPure rfl
  | cons e es ih =>
    unfold repairSheets
    dsimp only
    split
    · refine .bind (repairSheet_traces team e _) ?_
      rintro k found rfl
      cases found with
      | none => exact ih.mono fun k updates h => (Nat.zero_add k).trans h
      | some css =>
        refine .bind ih ?_
        intro l updates hRest
        refine .ofPure ?_
        rw [List.length_cons, Option.toList_some, List.length_singleton]
        omega
    · exact ih

theorem defineIn_traces (v : Page.UndefinedVariable) (script : Text) :
    FixesNothing team.oracle undefinedVariableName (defineIn team v script) := by
  unfold defineIn
  split
  · exact .ofPure rfl
  · refine .askReadThen (.ofPure rfl) ?_
    intro text s
    refine Run.Traces.readThen ?_ s
    intro patches
    split
    · exact .noteThen (.ofPure rfl)
    · exact .ofPure rfl

theorem defineInElement_traces (v : Page.UndefinedVariable) (e : Document.Element)
    (page : Text) :
    Tallies team.oracle undefinedVariableName (defineInElement team v e page) := by
  unfold defineInElement
  split
  · refine .bind (defineIn_traces team v e.content) ?_
    rintro k ⟨fixed, n⟩ rfl
    dsimp only
    split
    · exact .ofPure (.same 0)
    · next hCount => exact .fixThen (.ofPure (Tallied.one hCount))
  · exact .ofPure (.same 0)

/-- A turn that is over is on record as work. -/
theorem Turn.traced {team : Collaborators} {v : Page.UndefinedVariable} {i : Nat} {page : Text}
    {s s' : Progress} {ws : List Visit} {out : Option (Except Abort (Text × Nat))}
    {outcome : Except Abort (Text × Nat)} (h : Turn team v i page s ws out s')
    (hOver : out = some outcome) :
    Traced team.oracle undefinedVariableName (fun k (r : Text × Nat) => Tallied k r.2) s
      (outcome, s') := by
  induction h generalizing outcome with
  | soFar => exact absurd hOver (by simp)
  | @finished i page s h =>
    obtain rfl := Option.some.inj hOver
    exact Run.Traces.ofPure (.same 0) s
  | @aborted i page s s' e cause h hVisit =>
    obtain rfl := Option.some.inj hOver
    have hTraced := defineInElement_traces team v e page s
    rw [hVisit] at hTraced
    cases hTraced with
    | aborted hRecords hWork hLasts => exact .aborted hRecords hWork hLasts
  | @visited i n page left s s₁ s₂ e ws out h hVisit hRest ih =>
    obtain ⟨rest, hRestOver, rfl⟩ := Option.map_eq_some_iff.mp hOver
    have hTraced := defineInElement_traces team v e page s
    rw [hVisit] at hTraced
    cases hTraced with
    | done hRecords hWork hTally hLasts =>
      have hMapped := (ih hRestOver).map (R := fun k r => ∃ m, Tallied k m ∧ r.2 = n + m)
        (f := fun r => (r.1, n + r.2)) fun k r hRestTally => ⟨r.2, hRestTally, rfl⟩
      refine hMapped.behind hRecords hWork hLasts ?_
      rintro k r ⟨m, hRestTally, hCount⟩
      rw [hCount]
      exact hTally.add hRestTally

/-- However far a turn is followed, what it has put on record is work. -/
theorem Turn.work {team : Collaborators} {v : Page.UndefinedVariable} {i : Nat} {page : Text}
    {s s' : Progress} {ws : List Visit} {out : Option (Except Abort (Text × Nat))}
    (h : Turn team v i page s ws out s') (hGoing : out = none) :
    ∃ work, s'.records = s.records ++ work ∧
      Work team.oracle undefinedVariableName s.questions.length work s'.questions.length := by
  induction h with
  | soFar => exact ⟨[], (List.append_nil _).symm, .nothing⟩
  | finished h => exact absurd hGoing (by simp)
  | aborted h hVisit => exact absurd hGoing (by simp)
  | @visited i n page left s s₁ s₂ e ws out h hVisit hRest ih =>
    obtain ⟨later, hLater, hLaterWork⟩ := ih (Option.map_eq_none_iff.mp hGoing)
    have hTraced := defineInElement_traces team v e page s
    rw [hVisit] at hTraced
    cases hTraced with
    | @done _ _ work hRecords hWork =>
      refine ⟨work ++ later, ?_, hWork.append hLaterWork⟩
      rw [hLater, hRecords, List.append_assoc]

theorem defineTurn_traces (v : Page.UndefinedVariable) (page : Text) :
    Tallies team.oracle undefinedVariableName (defineTurn team v page) := by
  intro s
  cases hTurn : defineFrom team v 0 page s with
  | some out =>
    obtain ⟨ws, hRules⟩ := exists_turn hTurn
    rw [defineTurn, Run.ofLoop_of_some hTurn]
    exact hRules.traced rfl
  | none =>
    rw [defineTurn, Run.ofLoop_of_none hTurn]
    have hEndless : Lasts team.oracle undefinedVariableName s { s with endless := true } :=
      .inr ⟨rfl, s, [], (List.append_nil _).symm, .nothing, team, v, page, rfl, hTurn⟩
    exact .done (List.append_nil _).symm .nothing (.same 0) hEndless

theorem defineAll_traces (vs : List Page.UndefinedVariable) :
    ∀ page, Tallies team.oracle undefinedVariableName (defineAll team page vs) := by
  induction vs with
  | nil => exact fun _ => .ofPure (.same 0)
  | cons v vs ih =>
    intro page
    refine .bind (defineTurn_traces team v page) ?_
    rintro k ⟨page, n⟩ hHere
    refine .bind (ih page) ?_
    rintro l ⟨page, m⟩ hRest
    exact .ofPure (hHere.add hRest)

theorem logFailed_traces (oracle : Option Oracle)
    (failed : List (Patch.LinePatch × Patch.Rejection)) :
    FixesNothing oracle parenthesisName (logFailed failed) := by
  induction failed with
  | nil => exact .ofPure rfl
  | cons entry rest ih => exact .noteThen ih

theorem matchIn_traces (script : Text) (issues : List Script.ParenIssue) :
    FixesNothing team.oracle parenthesisName (matchIn team script issues) := by
  refine .askReadThen (.ofPure rfl) ?_
  intro text s
  refine Run.Traces.readThen ?_ s
  intro patches
  refine .bind (logFailed_traces _ _) ?_
  intro k _ hNone
  split
  · exact .ofPure hNone
  · exact .ofPure hNone

theorem matchAll_traces (es : List Document.Element) :
    Tallies team.oracle parenthesisName (matchAll team es) := by
  induction es with
  | nil => exact .ofPure (.same 0)
  | cons e es ih =>
    unfold matchAll
    dsimp only
    split
    · exact ih
    · refine .bind (matchIn_traces team e.content _) ?_
      rintro k ⟨fixed, n⟩ rfl
      dsimp only
      split
      · exact ih.mono fun k r h => (Nat.zero_add k).symm ▸ h
      · next hCount =>
        -- one note stands for all fixes of the script
        refine .fixThen (.bind ih ?_)
        rintro l ⟨updates, m⟩ hRest
        refine .ofPure ?_
        have hSum := (Tallied.one hCount).add hRest
        rwa [Nat.zero_add]

theorem replaceShaders_traces (source error : Text) (places : List (Nat × Nat)) :
    ∀ page, Counts team.oracle shaderName (replaceShaders team source error page places) := by
  induction places with
  | nil => exact fun _ => .ofPure rfl
  | cons place rest ih =>
    intro page
    refine .askThen (ih page) ?_
    intro text
    dsimp only
    split
    · exact ih page
    · split
      · refine .fixThen (.bind (ih _) ?_)
        rintro l ⟨page, n⟩ hRest
        refine .ofPure ?_
        dsimp only at hRest ⊢
        omega
      · exact ih page

-- ---------------------------------------------------------------------------
-- The standard passes
-- ---------------------------------------------------------------------------

/-- A pass that reports on its own work only. -/
def WritesOwn (p : Pass) (team : Collaborators) : Prop :=
  ∀ page, Run.Writes (Record.IsWork p.name) (p.repair team page)

/-- A pass whose repair is on record as its work, with a fix on record if and only if one
is counted; or it is aborted before there was anything to be noted. -/
def Traces (p : Pass) (team : Collaborators) : Prop :=
  ∀ page s, Traced team.oracle p.name (fun k (r : Text × Nat) => Tallied k r.2) s
      (p.repair team page s) ∨
    ∃ cause s', p.repair team page s = (.error cause, s') ∧ s'.records = s.records ∧
      s'.questions = s.questions ∧ s'.endless = s.endless

variable {team} {p : Pass}

theorem Traces.ofRepair (h : ∀ page, Tallies team.oracle p.name (p.repair team page)) :
    p.Traces team :=
  fun page s => .inl (h page s)

theorem Traces.writesOwn (h : p.Traces team) : p.WritesOwn team := by
  intro page s
  cases hRepair : p.repair team page s with
  | mk outcome s' =>
    have hTraces := h page s
    rw [hRepair] at hTraces
    rcases hTraces with hTraced | ⟨cause, q, hAborted, hRecords, -⟩
    · cases hTraced with
      | done hRecords hWork => exact ⟨_, hRecords, hWork.isWork⟩
      | aborted hRecords hWork => exact ⟨_, hRecords, hWork.isWork⟩
    · obtain rfl : s' = q := (Prod.mk.inj hAborted).2
      exact ⟨[], hRecords.trans (List.append_nil _).symm, by simp⟩

theorem scriptTag_traces (page : Text) :
    Tallies team.oracle scriptTagName (scriptTag.repair team page) := by
  unfold scriptTag scriptTagBy
  dsimp only
  split
  · exact .noteThen (.ofPure (.same 0))
  · exact .executeThen fun _ => (replaceScriptTags_traces team _ _ page).tallies

theorem missingFunction_traces (page : Text) :
    Tallies team.oracle missingFunctionName (missingFunction.repair team page) := by
  unfold missingFunction
  dsimp only
  split
  · exact .noteThen (.ofPure (.same 0))
  · exact .executeThen fun _ => (commentOutFunctions_traces team _ page).tallies

theorem styleSheet_traces (page : Text) :
    Tallies team.oracle styleSheetName (styleSheet.repair team page) := by
  refine .bind (repairSheets_traces team _) ?_
  rintro k updates rfl
  exact .ofPure (.same updates.length)

theorem shader_traces (page : Text) :
    Tallies team.oracle shaderName (shader.repair team page) := by
  unfold shader
  dsimp only
  split
  · exact .noteThen (.ofPure (.same 0))
  · refine .executeThen ?_
    intro events
    split
    · exact .ofPure (.same 0)
    · exact (replaceShaders_traces team page _ _ page).tallies

/-- The pass reads the faults off the events of the page run before it notes anything. If
they cannot be read, nothing of it is on record. -/
theorem undefinedVariable_traces : undefinedVariable.Traces team := by
  intro page s
  by_cases hEmpty : (Document.inlineScripts page).isEmpty = true
  · left
    rw [undefinedVariable_of_isEmpty hEmpty]
    exact Run.Traces.ofPure (.same 0) s
  cases hExecutor : team.executor with
  | none =>
    left
    rw [undefinedVariable_of_unheard hEmpty hExecutor]
    exact Run.Traces.noteThen (f := fun _ => pure (page, 0)) (.ofPure (.same 0)) s
  | some executor =>
    cases hFaults : Page.undefinedVariables (executor s.settleTimes.length page) with
    | error cause =>
      right
      exact ⟨_, _, undefinedVariable_of_unreadable hEmpty hExecutor hFaults, rfl, rfl, rfl⟩
    | ok faults =>
      left
      rw [undefinedVariable_of_faults hEmpty hExecutor hFaults]
      have hSteps : Tallies team.oracle undefinedVariableName
          (Run.execute executor page none >>= fun _ =>
            defineAll team page (firstOfEachName faults)) :=
        .executeThen fun _ => defineAll_traces team _ page
      exact hSteps s

/-- Only the events of a page run can abort a standard pass before it has noted anything. -/
theorem standard_traces {p : Pass} (hp : p ∈ Pipeline.standard) : p.Traces team := by
  simp only [Pipeline.standard, List.mem_cons, List.not_mem_nil, or_false] at hp
  rcases hp with rfl | rfl | rfl | rfl | rfl | rfl | rfl | rfl
  · refine .ofRepair fun page => ?_
    unfold markup
    dsimp only
    exact textual_traces team _ _ _ _ page
  · refine .ofRepair fun page => ?_
    unfold styleTags
    dsimp only
    exact textual_traces team _ _ _ _ page
  · exact .ofRepair scriptTag_traces
  · exact .ofRepair missingFunction_traces
  · exact .ofRepair styleSheet_traces
  · exact undefinedVariable_traces
  · refine .ofRepair fun page => .bind (matchAll_traces team _) ?_
    exact fun k updates hTally => .ofPure hTally
  · exact .ofRepair shader_traces

/-- Every standard pass reports on its own work only. -/
theorem standard_writesOwn {p : Pass} (hp : p ∈ Pipeline.standard) : p.WritesOwn team :=
  (standard_traces hp).writesOwn

end Pass

end SketchRepair
