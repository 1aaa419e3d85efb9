import SketchRepair.Proofs.Repair.Isolation
import SketchRepair.Proofs.Repair.Trail

/-!
# SketchRepair — what is to be seen of an aborted pass

A pass that is aborted does not stop the run, so whoever reads the report has to learn
of it there, and whoever reads the trail from the record of its end. Both go by the
text of the cause. Every cause has a text but one: a failure that was raised without
one. Such an abort leaves what a pass leaves that completed without a fix.

* `Fate` — what becomes of a pass at its turn, `Pipeline.turns` — of all passes of a run;
* `Abort.message_eq_nil_iff` — the one cause without a text;
* `Executed.shown`, `Executed.endings` — one pass: what its result and its records show;
* `runPasses_shows` — the passes of a run, one behind the other;
* `run_shows_aborts`, `standard_shows_aborts` — the errors of the report, and the ends on
  record.
-/

namespace SketchRepair

-- ---------------------------------------------------------------------------
-- Fates
-- ---------------------------------------------------------------------------

/-- What becomes of a pass at its turn. -/
inductive Fate where
  /-- The run has ended before it, or the page does not concern it. -/
  | passedOver
  | completed (fixes : Nat)
  | aborted (cause : Abort)
  deriving DecidableEq, Repr

/-- The end of a pass as it is on record. -/
structure Ending where
  pass : Text
  fixes : Int
  error : Option Text
  deriving DecidableEq, Repr

namespace Fate

/-- The text by which an abort is to be seen. A failure without a text has none, and
there is nothing to be seen of a pass that was not aborted. -/
def shown? : Fate → Option Text
  | aborted cause => if cause = .failed [] then none else some cause.message
  | passedOver => none
  | completed _ => none

/-- The line of a report about the pass with this name. -/
def errorLine? (name : Text) (fate : Fate) : Option Text :=
  fate.shown?.map fun text => name ++ ": ".toList ++ text

/-- How the pass with this name ends on record, unless it was passed over. -/
def ending? (name : Text) : Fate → Option Ending
  | passedOver => none
  | completed n => some ⟨name, n, none⟩
  | aborted cause => some ⟨name, 0, (aborted cause).shown?⟩

end Fate

/-- What becomes of a pass that is run on a page. -/
def Pass.fate (p : Pass) (team : Collaborators) (page : Text) (s : Progress) : Fate :=
  match (p.run team page s).1 with
  | .ok r => if r.skipped then .passedOver else .completed r.fixes
  | .error cause => .aborted cause

namespace Pipeline

/-- What becomes of a pass that stands behind others: they leave the page and the
progress on which it is run. -/
def fateBehind (team : Collaborators) (ended : Option Text) (page : Text) (s : Progress)
    (before : List Pass) (p : Pass) : Fate :=
  match runPasses team ended page before s with
  | (.ok (results, ended), s') =>
    if isEnded ended then .passedOver
    else p.fate team ((results.getLast?.map (·.page)).getD page) s'
  | (.error _, _) => .passedOver

/-- The names of the passes and what becomes of each. -/
def turns (team : Collaborators) (ended : Option Text) (page : Text) (s : Progress)
    (passes : List Pass) : List (Text × Fate) :=
  passes.mapIdx fun i p => (p.name, fateBehind team ended page s (passes.take i) p)

end Pipeline

/-- How a pass ended, if the record is about that. -/
def Record.ending? : Record → Option Ending
  | .passCompleted pass fixes _ error => some ⟨pass, fixes, error⟩
  | _ => none

/-- The ends of passes on record so far. -/
def Progress.endings (s : Progress) : List Ending := s.records.filterMap Record.ending?

-- ---------------------------------------------------------------------------
-- One pass
-- ---------------------------------------------------------------------------

/-- Only a failure that was raised without a text has none. -/
theorem Abort.message_eq_nil_iff {cause : Abort} : cause.message = [] ↔ cause = .failed [] := by
  constructor
  · intro h
    cases cause with
    | failed text => rw [show text = [] from h]
    | infinite => exact absurd h (by decide)
    | unreadable e =>
      cases e with
      | malformed => exact absurd (List.append_eq_nil_iff.mp h).1 (by decide)
      | tooLong => exact absurd (List.append_eq_nil_iff.mp h).2 (by decide)
  · rintro rfl
    rfl

/-- A text is kept on record, and in a report, unless it is empty. -/
theorem Fate.shown?_aborted (cause : Abort) :
    (Fate.aborted cause).shown? = (some cause.message).filter (!·.isEmpty) := by
  rw [Fate.shown?]
  by_cases h : cause = .failed []
  · rw [if_pos h, Abort.message_eq_nil_iff.mpr h]
    rfl
  · have hText : cause.message ≠ [] := fun hNil => h (Abort.message_eq_nil_iff.mp hNil)
    rw [if_neg h, Option.filter_some, if_pos (by simpa using hText)]

variable {team : Collaborators} {p : Pass} {page : Text} {s s' : Progress} {r : PassResult}

@[simp] theorem Progress.endings_noting (s : Progress) (r : Record) :
    (s.noting r).endings = s.endings ++ r.ending?.toList := by
  simp only [Progress.endings, Progress.records_noting, List.filterMap_append]
  cases h : r.ending? <;> simp [h]

/-- The work of a pass ends no pass. -/
theorem Record.ending?_of_isWork {pass : Text} {r : Record} (h : r.IsWork pass) :
    r.ending? = none := by
  cases r with
  | passCompleted => exact h.elim
  | _ => rfl

theorem Run.Writes.endings_eq {α : Type} {pass : Text} {x : Run α}
    (h : Writes (Record.IsWork pass) x) (s : Progress) : (x s).2.endings = s.endings := by
  obtain ⟨added, hAdded, hWork⟩ := h s
  have hNone : added.filterMap Record.ending? = [] := by
    rw [List.filterMap_eq_nil_iff]
    exact fun r hr => Record.ending?_of_isWork (hWork r hr)
  rw [Progress.endings, hAdded, List.filterMap_append, hNone, List.append_nil]
  rfl

theorem Pass.fate_of_ok {text : Text} {n : Nat} (hApplies : p.applies page = true)
    (hRepair : p.repair team page (s.noting (.passStarted p.name)) = (.ok (text, n), s')) :
    p.fate team page s = .completed n := by
  rw [fate, run_of_ok hApplies hRepair]
  rfl

theorem Pass.fate_of_error {cause : Abort} (hApplies : p.applies page = true)
    (hRepair : p.repair team page (s.noting (.passStarted p.name)) = (.error cause, s')) :
    p.fate team page s = .aborted cause := by
  rw [fate, run_of_error hApplies hRepair]

theorem Pass.fate_of_not_applies (hApplies : p.applies page = false) :
    p.fate team page s = .passedOver := by
  rw [fate, run, hApplies]
  rfl

/-- The error of a result is the one by which the fate of the pass is to be seen. -/
theorem Executed.shown (h : Executed team p page s r s') :
    r.error.filter (!·.isEmpty) = (p.fate team page s).shown? := by
  cases h with
  | notApplicable hApplies =>
    rw [Pass.fate_of_not_applies hApplies]
    rfl
  | unchanged hApplies hRepair =>
    rw [Pass.fate_of_ok hApplies hRepair]
    rfl
  | fixed hApplies hRepair =>
    rw [Pass.fate_of_ok hApplies hRepair]
    rfl
  | aborted hApplies hRepair => rw [Pass.fate_of_error hApplies hRepair, Fate.shown?_aborted]

/-- A pass that reports on its own work only is on record with one end, or with none
when it was passed over. -/
theorem Executed.endings (h : Executed team p page s r s') (hOwn : p.WritesOwn team) :
    s'.endings = s.endings ++ ((p.fate team page s).ending? p.name).toList := by
  have hWork : ∀ {outcome : Except Abort (Text × Nat)} {q : Progress},
      p.repair team page (s.noting (.passStarted p.name)) = (outcome, q) →
      q.endings = s.endings := by
    intro outcome q hRepair
    have hEndings := (hOwn page).endings_eq (s.noting (.passStarted p.name))
    rw [hRepair, Progress.endings_noting] at hEndings
    simpa [Record.ending?] using hEndings
  cases h with
  | notApplicable hApplies =>
    rw [Pass.fate_of_not_applies hApplies, Progress.endings_noting]
    rfl
  | unchanged hApplies hRepair =>
    rw [Pass.fate_of_ok hApplies hRepair, Progress.endings_noting, hWork hRepair]
    rfl
  | fixed hApplies hRepair =>
    rw [Pass.fate_of_ok hApplies hRepair, Progress.endings_noting, hWork hRepair]
    rfl
  | aborted hApplies hRepair =>
    rw [Pass.fate_of_error hApplies hRepair, Progress.endings_noting, hWork hRepair, Fate.ending?,
      Fate.shown?_aborted]
    rfl

-- ---------------------------------------------------------------------------
-- All passes of a run
-- ---------------------------------------------------------------------------

namespace Pipeline

/-- Once the run has ended, every pass is passed over. -/
theorem fateBehind_of_ended {ended : Option Text} (hEnded : isEnded ended = true)
    (team : Collaborators) (page : Text) (s : Progress) (before : List Pass) (p : Pass) :
    fateBehind team ended page s before p = .passedOver := by
  have hBefore : ∃ rs, runPasses team ended page before s = (.ok (rs, ended), s) := by
    induction before with
    | nil => exact ⟨[], by rw [runPasses]; rfl⟩
    | cons q qs ih =>
      obtain ⟨rs, hRest⟩ := ih
      exact ⟨_, runPasses_cons_of_ended hEnded hRest⟩
  obtain ⟨rs, hRun⟩ := hBefore
  rw [fateBehind, hRun]
  exact if_pos hEnded

/-- The turn of a pass, seen from behind the first one. -/
theorem fateBehind_cons {ended : Option Text} {q : Pass} {r : PassResult} {s₁ : Progress}
    (hGoing : isEnded ended = false) (hFirst : runGuarded q team page s = (.ok r, s₁))
    (before : List Pass) (p : Pass) :
    fateBehind team ended page s (q :: before) p =
      fateBehind team (preemptedBehind ended q r) r.page s₁ before p := by
  obtain ⟨rs, ended', _, s₂, hRest, _⟩ :=
    runPasses_threaded team before (preemptedBehind ended q r) r.page s₁
  rw [fateBehind, runPasses_cons_of_ok hGoing hFirst hRest, fateBehind, hRest]
  dsimp only
  rw [List.getLast?_cons]
  cases rs.getLast? <;> rfl

theorem turns_cons_of_ended {ended : Option Text} (hEnded : isEnded ended = true)
    (team : Collaborators) (page : Text) (s : Progress) (p : Pass) (ps : List Pass) :
    turns team ended page s (p :: ps) =
      (p.name, .passedOver) :: turns team ended page s ps := by
  simp only [turns, List.mapIdx_cons, fateBehind_of_ended hEnded]

theorem turns_cons_of_ok {ended : Option Text} {ps : List Pass} {s₁ : Progress}
    (hGoing : isEnded ended = false) (hFirst : runGuarded p team page s = (.ok r, s₁)) :
    turns team ended page s (p :: ps) =
      (p.name, p.fate team page s) :: turns team (preemptedBehind ended p r) r.page s₁ ps := by
  have hSelf : fateBehind team ended page s [] p = p.fate team page s := by
    rw [fateBehind, runPasses]
    exact if_neg (by simp [hGoing])
  simp only [turns, List.mapIdx_cons, List.take_zero, List.take_succ_cons,
    fateBehind_cons hGoing hFirst, hSelf]

/-- The results of passes show the aborts among their turns, each by its text. The
records behind passes that report on their own work only are the ends of their turns. -/
theorem runPasses_shows (ps : List Pass) :
    ∀ (ended : Option Text) (page : Text) (s : Progress), ∃ rs ended' s',
      runPasses team ended page ps s = (.ok (rs, ended'), s') ∧
      (rs.map fun r => (r.name, r.error.filter (!·.isEmpty))) =
        ((turns team ended page s ps).map fun turn => (turn.1, turn.2.shown?)) ∧
      ((∀ p ∈ ps, p.WritesOwn team) →
        s'.endings = s.endings ++
          (turns team ended page s ps).filterMap fun turn => turn.2.ending? turn.1) := by
  induction ps with
  | nil =>
    intro ended page s
    refine ⟨[], ended, s, ?_, rfl, fun _ => (List.append_nil _).symm⟩
    rw [runPasses]
    rfl
  | cons p ps ih =>
    intro ended page s
    cases hEnded : isEnded ended with
    | true =>
      obtain ⟨rs, ended', s', hRun, hShown, hEndings⟩ := ih ended page s
      refine ⟨_, ended', s', runPasses_cons_of_ended hEnded hRun, ?_, fun hOwn => ?_⟩
      · rw [turns_cons_of_ended hEnded, List.map_cons, List.map_cons, hShown]
        rfl
      · rw [turns_cons_of_ended hEnded, hEndings fun q hq => hOwn q (List.mem_cons_of_mem _ hq)]
        rfl
    | false =>
      obtain ⟨r, s₁, hFirst, hPass⟩ := runGuarded_executed p team page s
      obtain ⟨rs, ended', s₂, hRun, hShown, hEndings⟩ := ih (preemptedBehind ended p r) r.page s₁
      refine ⟨r :: rs, ended', s₂, runPasses_cons_of_ok hEnded hFirst hRun, ?_, fun hOwn => ?_⟩
      · rw [turns_cons_of_ok hEnded hFirst, List.map_cons, List.map_cons, hShown, hPass.name_eq,
          hPass.shown]
      · rw [turns_cons_of_ok hEnded hFirst,
          hEndings fun q hq => hOwn q (List.mem_cons_of_mem _ hq),
          hPass.endings (hOwn p (List.mem_cons_self ..)), List.append_assoc, List.filterMap_cons]
        dsimp only
        cases (p.fate team page s).ending? p.name <;> rfl

end Pipeline

/-- The errors of a report are read off the names and the errors of its results. -/
theorem Report.errors_eq_filterMap (report : Report) :
    report.errors = (report.passes.map fun r => (r.name, r.error.filter (!·.isEmpty))).filterMap
      fun (name, error) => error.map fun text => name ++ ": ".toList ++ text := by
  rw [errors, List.filterMap_map]
  rfl

/-- The errors of the report, and the ends on record if no pass reports on more than its own
work. -/
theorem Pipeline.exists_shown (passes : List Pass) (team : Collaborators) (page : Text)
    (s : Progress) :
    ∃ report s', run passes team page s = (.ok report, s') ∧
      report.errors = (turns team none page s passes).filterMap
        (fun turn => turn.2.errorLine? turn.1) ∧
      ((∀ p ∈ passes, p.WritesOwn team) → s'.endings = s.endings ++
        (turns team none page s passes).filterMap fun turn => turn.2.ending? turn.1) := by
  obtain ⟨rs, ended, s', hRun, hShown, hEndings⟩ :=
    @runPasses_shows team passes none page s
  refine ⟨⟨page, (rs.getLast?.map (·.page)).getD page, rs, ended⟩, _,
    Run.bind_eq_of_ok hRun rfl, ?_, fun hOwn => ?_⟩
  · rw [Report.errors_eq_filterMap, hShown, List.filterMap_map]
    rfl
  · show (s'.noting _).endings = _
    rw [Progress.endings_noting, hEndings hOwn]
    exact List.append_nil _

/-- The standard passes report on their own work only, so every abort of theirs is to be seen
in the report and on record, unless it was a failure without a text. -/
theorem standard_shows_aborts (team : Collaborators) (page : Text) (s : Progress) :
    ∃ report s', Pipeline.run Pipeline.standard team page s = (.ok report, s') ∧
      report.errors = (Pipeline.turns team none page s Pipeline.standard).filterMap
        (fun turn => turn.2.errorLine? turn.1) ∧
      s'.endings = s.endings ++ (Pipeline.turns team none page s Pipeline.standard).filterMap
        (fun turn => turn.2.ending? turn.1) := by
  obtain ⟨report, s', hRun, hErrors, hEndings⟩ :=
    Pipeline.exists_shown Pipeline.standard team page s
  exact ⟨report, s', hRun, hErrors, hEndings fun _ hp => Pass.standard_writesOwn hp⟩

/--
**An abort is to be seen by its text.** A run of any passes over any page yields a
report, and when no pass reports on more than its own work,

1. the errors of the report are, in order, the names and the texts of the passes that
   were aborted at their turn, except of those that failed without a text; no pass
   that completed or was passed over is among them;
2. the ends on record are, in order, those of the passes that were not passed over: of
   a pass that completed its count and no error, of a pass that was aborted no fix and
   the text of the cause, unless it failed without a text.
-/
theorem run_shows_aborts (passes : List Pass) (team : Collaborators) (page : Text)
    (s : Progress) (hOwn : ∀ p ∈ passes, p.WritesOwn team) :
    ∃ report s', Pipeline.run passes team page s = (.ok report, s') ∧
      report.errors = (Pipeline.turns team none page s passes).filterMap
        (fun turn => turn.2.errorLine? turn.1) ∧
      s'.endings = s.endings ++ (Pipeline.turns team none page s passes).filterMap
        (fun turn => turn.2.ending? turn.1) := by
  obtain ⟨report, s', hRun, hErrors, hEndings⟩ := Pipeline.exists_shown passes team page s
  exact ⟨report, s', hRun, hErrors, hEndings hOwn⟩

/-- A pass that fails with the given text as soon as it is run. -/
def Pass.raising (text : Text) : Pass where
  name := "raising".toList
  title := "Raising".toList
  repair _ _ := Run.abort (.failed text)

theorem Pass.raising_writesOwn (text : Text) (team : Collaborators) :
    (Pass.raising text).WritesOwn team :=
  fun _ => Run.Writes.nothing fun _ => rfl

/-- Of two passes that fail, the one without a text leaves nothing to be seen. -/
theorem run_shows_aborts_blankFailure :
    ∃ report s', Pipeline.run [.raising [], .raising "boom".toList] ⟨none, none⟩ [] .initial =
        (.ok report, s') ∧
      report.errors = ["raising: boom".toList] ∧
      s'.endings = [⟨"raising".toList, 0, none⟩, ⟨"raising".toList, 0, some "boom".toList⟩] := by
  have hOwn : ∀ p ∈ [Pass.raising [], .raising "boom".toList], p.WritesOwn ⟨none, none⟩ := by
    intro p hp
    simp only [List.mem_cons, List.not_mem_nil, or_false] at hp
    rcases hp with rfl | rfl <;> exact Pass.raising_writesOwn _ _
  exact run_shows_aborts _ _ _ _ hOwn

end SketchRepair
