import SketchRepair.Proofs.Repair.Isolation
import SketchRepair.Proofs.Repair.Trail

/-!
# SketchRepair — the trail of a run

The records of a run are a chronicle with a chapter for every pass that was executed. A
chapter is opened by the start of the pass and closed by its end, and between the two the
pass is at work; the chapter of a pass that does not concern the page is a single note.
Behind a fix that ends the run there are no more chapters, and the summary closes it all.

A chapter is written while the pass is at work, and its count only when the pass is done.
So the fixes on record are those counted if the pass comes to its end. An abort voids the
count but not the records: then the fixes on record are followed by the exchange with the
oracle at which the pass was aborted.

A run that never ends stays in the chapter of the pass that defines undefined variables. Up
to there its records are a chronicle, and then they are work of this pass forever.

* `Chapter`, `Chronicle` — the records of a pass, and of the passes of a run;
* `Unfinished` — the records of a run up to the turn that never ends;
* `Executed.exists_chapter`, `Threaded.exists_chronicle` — a pass writes its chapter, and
  a run its chronicle;
* `Threaded.lasts` — a run is endless because of such a turn only;
* `Chronicle.chapter_of_mem` — the records under the name of a pass are its chapter;
* `run_chronicle` — the trail of a run of the standard passes;
* `run_fixes_on_record` — the fixes on record and the fixes counted.
-/

namespace SketchRepair

-- ---------------------------------------------------------------------------
-- Chapters
-- ---------------------------------------------------------------------------

/-- The records of a pass that was executed on a page, together with its result and the
progress behind it. -/
inductive Chapter (team : Collaborators) (p : Pass) (page : Text) (s : Progress) :
    PassResult → List Record → Progress → Prop where
  | notApplicable (hApplies : p.applies page = false) :
      Chapter team p page s { name := p.name, page := page, skipped := true }
        [.patchSkipped p.name "not applicable to document".toList]
        (s.noting (.patchSkipped p.name "not applicable to document".toList))
  /-- The work of the pass, with a fix on record if and only if one is counted. -/
  | completed {text : Text} {fixes : Nat} {work : List Record} {s' : Progress}
      (hApplies : p.applies page = true)
      (hRepair : p.repair team page (s.noting (.passStarted p.name)) = (.ok (text, fixes), s'))
      (hWork : Work team.oracle p.name s.questions.length work s'.questions.length)
      (hTally : Tallied (fixRecords work) fixes) :
      Chapter team p page s
        { name := p.name, page := if fixes = 0 then page else text, fixes := fixes }
        (.passStarted p.name :: (work ++ [.completed p.name fixes Pass.untimed none]))
        (s'.noting (.completed p.name fixes Pass.untimed none))
  /-- Work up to the exchange with the oracle at which the pass was aborted. -/
  | aborted {work : List Record} {cause : Abort} {s' : Progress}
      (hApplies : p.applies page = true)
      (hRepair : p.repair team page (s.noting (.passStarted p.name)) = (.error cause, s'))
      (hWork : Interrupted team.oracle p.name s.questions.length work cause
        s'.questions.length) :
      Chapter team p page s { name := p.name, page := page, error := some cause.message }
        (.passStarted p.name ::
          (work ++ [.completed p.name 0 Pass.untimed (some cause.message)]))
        (s'.noting (.completed p.name 0 Pass.untimed (some cause.message)))
  /-- The pass was aborted before it had asked or noted anything. -/
  | unbegun {cause : Abort} {s' : Progress} (hApplies : p.applies page = true)
      (hRepair : p.repair team page (s.noting (.passStarted p.name)) = (.error cause, s'))
      (hQuestions : s'.questions = s.questions) :
      Chapter team p page s { name := p.name, page := page, error := some cause.message }
        [.passStarted p.name, .completed p.name 0 Pass.untimed (some cause.message)]
        (s'.noting (.completed p.name 0 Pass.untimed (some cause.message)))

/-- The records of the passes of a run, one behind the other, together with their results.
The first argument is the pass that has preempted the rest before them, if any. -/
inductive Chronicle (team : Collaborators) :
    Option Text → Text → Progress → List Pass →
      List PassResult → List Record → Progress → Prop where
  | done {ended : Option Text} {page : Text} {s : Progress} :
      Chronicle team ended page s [] [] [] s
  | executed {p : Pass} {ps : List Pass} {r : PassResult} {rs : List PassResult}
      {ended : Option Text} {page : Text} {s s₁ s₂ : Progress} {chapter rest : List Record}
      (hGoing : Pipeline.isEnded ended = false) (hChapter : Chapter team p page s r chapter s₁)
      (hRest : Chronicle team (preemptedBehind ended p r) r.page s₁ ps rs rest s₂) :
      Chronicle team ended page s (p :: ps) (r :: rs) (chapter ++ rest) s₂
  /-- Nothing is on record of a pass behind the end of the run. -/
  | preempted {p : Pass} {ps : List Pass} {rs : List PassResult} {ended : Option Text}
      {page : Text} {s s₁ : Progress} {trace : List Record}
      (hEnded : Pipeline.isEnded ended = true)
      (hRest : Chronicle team ended page s ps rs trace s₁) :
      Chronicle team ended page s (p :: ps)
        ({ name := p.name, page := page, skipped := true } :: rs) trace s₁

/-- The records of passes of which one has come to a turn that never ends, up to the
beginning of this turn. -/
inductive Unfinished (team : Collaborators) :
    Option Text → Text → Progress → List Pass → List Record → Progress → Prop where
  /-- The pass is executed, and it is at work when it comes to the turn. -/
  | here {p : Pass} {ps : List Pass} {ended : Option Text} {page : Text} {s q : Progress}
      {work : List Record} (hGoing : Pipeline.isEnded ended = false)
      (hApplies : p.applies page = true) (hName : p.name = Pass.undefinedVariableName)
      (hWork : Work team.oracle p.name s.questions.length work q.questions.length)
      (hTurn : BeginsEndless team.oracle q) :
      Unfinished team ended page s (p :: ps) (.passStarted p.name :: work) q
  | later {p : Pass} {ps : List Pass} {r : PassResult} {ended : Option Text} {page : Text}
      {s s₁ q : Progress} {chapter rest : List Record}
      (hGoing : Pipeline.isEnded ended = false) (hChapter : Chapter team p page s r chapter s₁)
      (hRest : Unfinished team (preemptedBehind ended p r) r.page s₁ ps rest q) :
      Unfinished team ended page s (p :: ps) (chapter ++ rest) q

variable {team : Collaborators} {p : Pass} {ps : List Pass} {r : PassResult}
  {rs : List PassResult} {page last : Text} {ended ended' : Option Text} {s s' : Progress}
  {chapter trace : List Record}

/-- A repair that yields a page is on record as the work of a pass that completed. -/
theorem Pass.Traces.chapter_of_ok {text : Text} {fixes : Nat} (hTraces : p.Traces team)
    (hApplies : p.applies page = true)
    (hRepair : p.repair team page (s.noting (.passStarted p.name)) = (.ok (text, fixes), s')) :
    ∃ chapter,
      (s'.noting (.completed p.name fixes untimed none)).records = s.records ++ chapter ∧
      Chapter team p page s
        { name := p.name, page := if fixes = 0 then page else text, fixes := fixes } chapter
        (s'.noting (.completed p.name fixes untimed none)) := by
  have hTraced := hTraces page (s.noting (.passStarted p.name))
  rw [hRepair] at hTraced
  rcases hTraced with hTraced | ⟨cause, q, hAborted, -⟩
  · cases hTraced with
    | @done _ _ work hRecords hWork hTally =>
      refine ⟨_, ?_, .completed hApplies hRepair hWork hTally⟩
      rw [Progress.records_noting, hRecords, Progress.records_noting]
      simp
  · simp at hAborted

theorem Pass.Traces.chapter_of_error {cause : Abort} (hTraces : p.Traces team)
    (hApplies : p.applies page = true)
    (hRepair : p.repair team page (s.noting (.passStarted p.name)) = (.error cause, s')) :
    ∃ chapter, (s'.noting (.completed p.name 0 untimed (some cause.message))).records =
        s.records ++ chapter ∧
      Chapter team p page s { name := p.name, page := page, error := some cause.message } chapter
        (s'.noting (.completed p.name 0 untimed (some cause.message))) := by
  have hTraced := hTraces page (s.noting (.passStarted p.name))
  rw [hRepair] at hTraced
  rcases hTraced with hTraced | ⟨cause', q, hAborted, hRecords, hQuestions, -⟩
  · cases hTraced with
    | @aborted _ _ work hRecords hWork =>
      refine ⟨_, ?_, .aborted hApplies hRepair hWork⟩
      rw [Progress.records_noting, hRecords, Progress.records_noting]
      simp
  · obtain rfl : s' = q := (Prod.mk.inj hAborted).2
    refine ⟨_, ?_, .unbegun hApplies hRepair hQuestions⟩
    rw [Progress.records_noting, hRecords, Progress.records_noting, List.append_assoc]
    rfl

/-- A pass writes one chapter. -/
theorem Executed.exists_chapter (h : Executed team p page s r s') (hTraces : p.Traces team) :
    ∃ chapter, s'.records = s.records ++ chapter ∧ Chapter team p page s r chapter s' := by
  cases h with
  | notApplicable hApplies => exact ⟨_, rfl, .notApplicable hApplies⟩
  | unchanged hApplies hRepair => exact hTraces.chapter_of_ok hApplies hRepair
  | @fixed text n s' hApplies hRepair hCount =>
    have hChapter := hTraces.chapter_of_ok hApplies hRepair
    rwa [if_neg (by omega)] at hChapter
  | aborted hApplies hRepair => exact hTraces.chapter_of_error hApplies hRepair

/-- Passes write a chronicle. -/
theorem Threaded.exists_chronicle (h : Threaded team ended page s ps rs ended' last s')
    (hTraces : ∀ p ∈ ps, p.Traces team) :
    ∃ trace, s'.records = s.records ++ trace ∧ Chronicle team ended page s ps rs trace s' := by
  induction h with
  | done => exact ⟨[], (List.append_nil _).symm, .done⟩
  | executed hGoing hPass _ ih =>
    obtain ⟨hFirst, hOthers⟩ := List.forall_mem_cons.mp hTraces
    obtain ⟨chapter, hWritten, hChapter⟩ := hPass.exists_chapter hFirst
    obtain ⟨rest, hRest, hChronicle⟩ := ih hOthers
    refine ⟨chapter ++ rest, ?_, .executed hGoing hChapter hChronicle⟩
    rw [hRest, hWritten, List.append_assoc]
  | skipped hEnded _ ih =>
    obtain ⟨trace, hWritten, hChronicle⟩ := ih (List.forall_mem_cons.mp hTraces).2
    exact ⟨trace, hWritten, .preempted hEnded hChronicle⟩

-- ---------------------------------------------------------------------------
-- Runs that never end
-- ---------------------------------------------------------------------------

/-- A repair is as endless behind as before, or it has come to a turn that never ends. -/
theorem Pass.Traces.lasts {outcome : Except Abort (Text × Nat)} (hTraces : p.Traces team)
    (hRepair : p.repair team page s = (outcome, s')) : Lasts team.oracle p.name s s' := by
  have hTraced := hTraces page s
  rw [hRepair] at hTraced
  rcases hTraced with hTraced | ⟨cause, q, hAborted, -, -, hSame⟩
  · cases hTraced with
    | done _ _ _ hLasts => exact hLasts
    | aborted _ _ hLasts => exact hLasts
  · obtain rfl : s' = q := (Prod.mk.inj hAborted).2
    exact .inl hSame

theorem Executed.lasts (h : Executed team p page s r s') (hTraces : p.Traces team) :
    s'.endless = s.endless ∨ p.applies page = true ∧ p.name = Pass.undefinedVariableName ∧
      ∃ q work, q.records = s.records ++ .passStarted p.name :: work ∧
        Work team.oracle p.name s.questions.length work q.questions.length ∧
        BeginsEndless team.oracle q := by
  have hRepaired {outcome : Except Abort (Text × Nat)} {q : Progress}
      (hRepair : p.repair team page (s.noting (.passStarted p.name)) = (outcome, q))
      (hApplies : p.applies page = true) (last : Record) :
      (q.noting last).endless = s.endless ∨
        p.applies page = true ∧ p.name = Pass.undefinedVariableName ∧
          ∃ q work, q.records = s.records ++ .passStarted p.name :: work ∧
            Work team.oracle p.name s.questions.length work q.questions.length ∧
            BeginsEndless team.oracle q := by
    rcases hTraces.lasts hRepair with hSame | ⟨hName, q, work, hRecords, hWork, hTurn⟩
    · exact .inl hSame
    · refine .inr ⟨hApplies, hName, q, work, ?_, hWork, hTurn⟩
      rw [hRecords, Progress.records_noting, List.append_assoc, List.singleton_append]
  cases h with
  | notApplicable => exact .inl rfl
  | unchanged hApplies hRepair => exact hRepaired hRepair hApplies _
  | fixed hApplies hRepair => exact hRepaired hRepair hApplies _
  | aborted hApplies hRepair => exact hRepaired hRepair hApplies _

/-- Passes are as endless behind as before, or one of them has come to a turn that never
ends. -/
theorem Threaded.lasts (h : Threaded team ended page s ps rs ended' last s')
    (hTraces : ∀ p ∈ ps, p.Traces team) :
    s'.endless = s.endless ∨ ∃ trace q, q.records = s.records ++ trace ∧
      Unfinished team ended page s ps trace q := by
  induction h with
  | done => exact .inl rfl
  | executed hGoing hPass _ ih =>
    obtain ⟨hFirst, hOthers⟩ := List.forall_mem_cons.mp hTraces
    rcases hPass.lasts hFirst with hSame | ⟨hApplies, hName, q, work, hRecords, hWork, hTurn⟩
    · refine (ih hOthers).imp (fun hLater => hLater.trans hSame) ?_
      rintro ⟨rest, q, hRest, hUnfinished⟩
      obtain ⟨chapter, hWritten, hChapter⟩ := hPass.exists_chapter hFirst
      refine ⟨chapter ++ rest, q, ?_, .later hGoing hChapter hUnfinished⟩
      rw [hRest, hWritten, List.append_assoc]
    · exact .inr ⟨_, q, hRecords, .here hGoing hApplies hName hWork hTurn⟩
  | skipped hEnded hRest ih =>
    left
    rw [(hRest.skipped_of_ended hEnded).2.2]

/-- A turn that never ends can be followed for any number of visits, and all that it puts on
record is work of the pass. -/
theorem BeginsEndless.exists_turn {oracle : Option Oracle} {q : Progress}
    (h : BeginsEndless oracle q) :
    ∃ team v page, team.oracle = oracle ∧ ∀ n, ∃ ws q' more, ws.length = n ∧
      Pass.Turn team v 0 page q ws none q' ∧ q'.records = q.records ++ more ∧
      Work oracle Pass.undefinedVariableName q.questions.length more q'.questions.length := by
  obtain ⟨team, v, page, rfl, hTurn⟩ := h
  refine ⟨team, v, page, rfl, fun n => ?_⟩
  obtain ⟨ws, q', hLength, hCourse⟩ := Pass.defineFrom_eq_none_iff.mp hTurn n
  obtain ⟨more, hMore, hWork⟩ := hCourse.work rfl
  exact ⟨ws, q', more, hLength, hCourse, hMore, hWork⟩

-- ---------------------------------------------------------------------------
-- Records by pass
-- ---------------------------------------------------------------------------

/-- The records about the pass with this name. -/
def recordsOf (name : Text) (trace : List Record) : List Record :=
  trace.filter fun r => r.pass? = some name

theorem recordsOf_append (name : Text) (before behind : List Record) :
    recordsOf name (before ++ behind) = recordsOf name before ++ recordsOf name behind :=
  List.filter_append ..

theorem recordsOf_eq_self {name : Text} (h : ∀ r ∈ trace, r.pass? = some name) :
    recordsOf name trace = trace := by
  rw [recordsOf, List.filter_eq_self]
  exact fun r hr => decide_eq_true (h r hr)

theorem recordsOf_eq_nil {name : Text} (h : ∀ r ∈ trace, r.pass? ≠ some name) :
    recordsOf name trace = [] := by
  rw [recordsOf, List.filter_eq_nil_iff]
  intro r hr
  rw [decide_eq_true_iff]
  exact h r hr

/-- The work of a pass is on record under its name. -/
theorem Record.pass?_of_isWork {pass : Text} {q : Record} (h : q.IsWork pass) :
    q.pass? = some pass := by
  cases q with
  | passStarted | passCompleted | runSummary => exact h.elim
  | fixApplied | patchSkipped | oracleRequest | oracleResponse => exact congrArg some h

theorem Chapter.name_eq (h : Chapter team p page s r chapter s') : r.name = p.name := by
  cases h <;> rfl

/-- Every record of a chapter is about the pass. -/
theorem Chapter.pass_eq (h : Chapter team p page s r chapter s') :
    ∀ q ∈ chapter, q.pass? = some p.name := by
  have hWorked {work : List Record} {last : Record} (hWork : ∀ q ∈ work, q.IsWork p.name)
      (hLast : last.pass? = some p.name) :
      ∀ q ∈ Record.passStarted p.name :: (work ++ [last]), q.pass? = some p.name := by
    refine List.forall_mem_cons.mpr ⟨rfl, List.forall_mem_append.mpr ⟨?_, ?_⟩⟩
    · exact fun q hq => Record.pass?_of_isWork (hWork q hq)
    · exact List.forall_mem_singleton.mpr hLast
  cases h with
  | notApplicable => exact List.forall_mem_singleton.mpr rfl
  | completed _ _ hWork => exact hWorked hWork.isWork rfl
  | aborted _ _ hWork => exact hWorked hWork.isWork rfl
  | unbegun => exact hWorked (fun _ hq => absurd hq List.not_mem_nil) rfl

/-- Every record of a chronicle is about one of the passes. -/
theorem Chronicle.pass_mem (h : Chronicle team ended page s ps rs trace s') :
    ∀ q ∈ trace, ∃ p ∈ ps, q.pass? = some p.name := by
  induction h with
  | done => exact fun q hq => absurd hq List.not_mem_nil
  | executed _ hChapter _ ih =>
    intro q hq
    rcases List.mem_append.mp hq with hHere | hLater
    · exact ⟨_, List.mem_cons_self .., hChapter.pass_eq q hHere⟩
    · obtain ⟨p, hp, hPass⟩ := ih q hLater
      exact ⟨p, List.mem_cons_of_mem _ hp, hPass⟩
  | preempted _ _ ih =>
    intro q hq
    obtain ⟨p, hp, hPass⟩ := ih q hq
    exact ⟨p, List.mem_cons_of_mem _ hp, hPass⟩

theorem Chronicle.names_eq (h : Chronicle team ended page s ps rs trace s') :
    rs.map (·.name) = ps.map (·.name) := by
  induction h with
  | done => rfl
  | executed _ hChapter _ ih => rw [List.map_cons, List.map_cons, hChapter.name_eq, ih]
  | preempted _ _ ih => rw [List.map_cons, List.map_cons, ih]

/-- Nothing is on record under a name that no pass has. -/
theorem Chronicle.recordsOf_of_not_mem (h : Chronicle team ended page s ps rs trace s') {name : Text}
    (hName : name ∉ ps.map (·.name)) : recordsOf name trace = [] := by
  refine recordsOf_eq_nil fun q hq hPass => hName ?_
  obtain ⟨p, hp, hOther⟩ := h.pass_mem q hq
  rw [hPass, Option.some.injEq] at hOther
  exact hOther ▸ List.mem_map_of_mem hp

/-- What is on record under the name of a pass, among passes with names of their own: its
chapter, or nothing when the run had ended before it. -/
theorem Chronicle.chapter_of_mem (h : Chronicle team ended page s ps rs trace s')
    (hNames : (ps.map (·.name)).Nodup) (hr : r ∈ rs) :
    (∃ p ∈ ps, ∃ page q q', Chapter team p page q r (recordsOf r.name trace) q') ∨
      (r.fixes = 0 ∧ r.error = none ∧ recordsOf r.name trace = []) := by
  induction h with
  | done => exact absurd hr List.not_mem_nil
  | @executed p ps first rs _ page s s₁ _ chapter rest _ hChapter hRest ih =>
    rw [List.map_cons, List.nodup_cons] at hNames
    rw [recordsOf_append]
    rcases List.mem_cons.mp hr with rfl | hLater
    · left
      rw [← hChapter.name_eq] at hNames
      rw [hRest.recordsOf_of_not_mem hNames.1, List.append_nil,
        recordsOf_eq_self (hChapter.name_eq ▸ hChapter.pass_eq)]
      exact ⟨p, List.mem_cons_self .., page, s, s₁, hChapter⟩
    · -- the name is one of a later pass, so the first chapter is not about it
      have hOther : recordsOf r.name chapter = [] := by
        refine recordsOf_eq_nil fun q hq hPass => hNames.1 ?_
        rw [hChapter.pass_eq q hq, Option.some.injEq] at hPass
        rw [hPass, ← hRest.names_eq]
        exact List.mem_map_of_mem hLater
      rw [hOther, List.nil_append]
      refine (ih hNames.2 hLater).imp_left ?_
      rintro ⟨q, hq, hFound⟩
      exact ⟨q, List.mem_cons_of_mem _ hq, hFound⟩
  | preempted _ hRest ih =>
    rw [List.map_cons, List.nodup_cons] at hNames
    rcases List.mem_cons.mp hr with rfl | hLater
    · exact .inr ⟨rfl, rfl, hRest.recordsOf_of_not_mem hNames.1⟩
    · refine (ih hNames.2 hLater).imp_left ?_
      rintro ⟨q, hq, hFound⟩
      exact ⟨q, List.mem_cons_of_mem _ hq, hFound⟩

-- ---------------------------------------------------------------------------
-- Fixes on record
-- ---------------------------------------------------------------------------

/-- The records of a pass tell of work up to the exchange with the oracle at which it was
aborted, and then of its end. -/
def AbortedAsking (oracle : Option Oracle) (name : Text) (error : Option Text)
    (records : List Record) : Prop :=
  ∃ n work cause m, Interrupted oracle name n work cause m ∧ error = some cause.message ∧
    records = .passStarted name ::
      (work ++ [.completed name 0 Pass.untimed (some cause.message)])

/-- The start and the end of a pass are no fixes. -/
theorem fixRecords_worked (name : Text) (work : List Record) (fixes : Int)
    (error : Option Text) :
    fixRecords (.passStarted name :: (work ++ [.completed name fixes Pass.untimed error])) =
      fixRecords work := by
  have hEnd : fixRecords [.completed name fixes Pass.untimed error] = 0 := rfl
  have hStart : fixRecords [.passStarted name] = 0 := rfl
  rw [← List.singleton_append, fixRecords_append, fixRecords_append, hStart, hEnd]
  omega

/-- The fixes on record are those counted if the pass has come to its end. Else none is
counted, and any on record go before the exchange at which the pass was aborted. -/
theorem Chapter.fixes_on_record (h : Chapter team p page s r trace s') :
    (r.error = none → Tallied (fixRecords trace) r.fixes) ∧
      (r.error ≠ none → r.fixes = 0 ∧
        (0 < fixRecords trace → AbortedAsking team.oracle r.name r.error trace)) := by
  cases h with
  | notApplicable => exact ⟨fun _ => .same 0, fun hError => absurd rfl hError⟩
  | completed _ _ hWork hTally =>
    refine ⟨fun _ => ?_, fun hError => absurd rfl hError⟩
    rw [fixRecords_worked]
    exact hTally
  | aborted _ _ hWork =>
    refine ⟨fun hError => absurd hError (by simp), fun _ => ⟨rfl, fun _ => ?_⟩⟩
    exact ⟨_, _, _, _, hWork, rfl, rfl⟩
  | unbegun =>
    refine ⟨fun hError => absurd hError (by simp), fun _ => ⟨rfl, fun hFix => ?_⟩⟩
    exact absurd hFix (Nat.lt_irrefl 0)

-- ---------------------------------------------------------------------------
-- Runs of the standard passes
-- ---------------------------------------------------------------------------

theorem Pipeline.standard_names_nodup : (standard.map (·.name)).Nodup := by decide

/-- A run of the standard passes writes its chronicle and then the summary. -/
theorem Pipeline.exists_chronicle (team : Collaborators) (page : Text) (s : Progress) :
    ∃ report s' s₁ trace, run standard team page s = (.ok report, s') ∧
      Chronicle team none page s standard report.passes trace s₁ ∧
      s'.records = s.records ++ trace ++ [.runSummary report.totalFixes
        (report.perPass.map fun (name, n) => (name, (n : Int)))] ∧
      (s'.endless = s.endless ∨ ∃ trace q, q.records = s.records ++ trace ∧
        Unfinished team none page s standard trace q) := by
  obtain ⟨report, s₁, hRun, -, hThreaded⟩ := run_threaded standard team page s
  obtain ⟨trace, hRecords, hChronicle⟩ :=
    hThreaded.exists_chronicle fun _ hp => Pass.standard_traces hp
  refine ⟨report, _, s₁, trace, hRun, hChronicle, ?_, ?_⟩
  · rw [Progress.records_noting, hRecords]
  · exact hThreaded.lasts fun _ hp => Pass.standard_traces hp

/--
**The fixes on record.** Whatever the page, the events and the oracle, for every result in
the report of a run of the standard passes,

1. if the pass was not aborted, then a fix is on record under its name if and only if one is
   counted, and there are no more of them than are counted;
2. if it was aborted, then no fix is counted; and if a fix is on record all the same, then
   it was noted before the exchange with the oracle at which the pass was aborted.
-/
theorem run_fixes_on_record (team : Collaborators) (page : Text) (s : Progress) :
    ∃ report s' trace, Pipeline.run Pipeline.standard team page s = (.ok report, s') ∧
      s'.records = s.records ++ trace ∧
      ∀ r ∈ report.passes,
        (r.error = none → Tallied (fixRecords (recordsOf r.name trace)) r.fixes) ∧
        (r.error ≠ none → r.fixes = 0 ∧ (0 < fixRecords (recordsOf r.name trace) →
          AbortedAsking team.oracle r.name r.error (recordsOf r.name trace))) := by
  obtain ⟨report, s', s₁, trace, hRun, hChronicle, hRecords, -⟩ :=
    Pipeline.exists_chronicle team page s
  refine ⟨report, s', _, hRun, hRecords.trans (List.append_assoc ..), ?_⟩
  intro r hr
  have hSummary (total : Int) (tally : List (Text × Int)) :
      recordsOf r.name [.runSummary total tally] = [] := rfl
  rw [recordsOf_append, hSummary, List.append_nil]
  rcases hChronicle.chapter_of_mem Pipeline.standard_names_nodup hr with
    ⟨p, -, _, _, _, hChapter⟩ | ⟨hFixes, hError, hNothing⟩
  · exact hChapter.fixes_on_record
  · rw [hNothing, hFixes]
    exact ⟨fun _ => .same 0, fun hAborted => absurd hError hAborted⟩

/-- Two scripts with an open parenthesis each. -/
def twoOpenCalls : Text := "<script>f(1;</script><script>g(2;</script>".toList

/-- An oracle that is unavailable at first, and then fails. -/
def failingLater : Oracle := fun n _ =>
  if n = 0 then .unavailable "no".toList else .failure "boom".toList

-- The fix of the first script is on record when the question about the second one aborts
-- the pass.
example :
    let outcome := Pass.parenthesis.repair ⟨some failingLater, none⟩ twoOpenCalls .initial
    fixRecords outcome.2.records = 1 ∧
      outcome.1.map Prod.snd = .error (.failed "boom".toList) := by
  decide +kernel

end SketchRepair
