import SketchRepair.Proofs.Repair.Run
import SketchRepair.Repair.Pass.UndefinedVariable

/-!
# SketchRepair — the work of a pass as it is on record

Between its start and its end a pass notes fixes and what it left, and exchanges
questions and answers with the oracle. A question and what was answered to it stand next
to each other, and there is no answer only where the oracle failed and the pass was
aborted by that. The number of fixes on record goes along with the value that a step
yields. If a run is endless, it has come to the turn of a variable that never ends, and
up to there its records are like all others.

* `Work`, `Interrupted` — the records of a step that yields a value, and of one that is
  aborted, with the number of the next question before and behind them;
* `BeginsEndless`, `Lasts` — a turn that never ends, and the work up to it;
* `Traced`, `Run.Traces` — a step of a run is on record like that;
* `Run.Traces.bind`, `Run.Traces.noteThen`, `Run.Traces.fixThen`, `Run.Traces.askThen` — steps
  one behind the other;
* `Tallied` — fixes on record and fixes counted;
* `Run.FixesNothing`, `Run.Counts`, `Run.Tallies` — what a step puts on record and counts.
-/

namespace SketchRepair

/-- Is it the record of a fix? -/
def Record.isFix : Record → Bool
  | .fixApplied .. => true
  | _ => false

/-- The number of fixes on record. -/
def fixRecords (records : List Record) : Nat := records.countP Record.isFix

/-- The records of the work of a pass, from one question number to the next. -/
inductive Work (oracle : Option Oracle) (pass : Text) : Nat → List Record → Nat → Prop where
  | nothing {n : Nat} : Work oracle pass n [] n
  | fixed {n m : Nat} {rest : List Record} (location description : Text)
      (metadata : List (Text × Json)) (hRest : Work oracle pass n rest m) :
      Work oracle pass n (.fixApplied pass location description metadata :: rest) m
  | left {n m : Nat} {rest : List Record} (reason : Text) (hRest : Work oracle pass n rest m) :
      Work oracle pass n (.patchSkipped pass reason :: rest) m
  /-- A question, and the answer that the oracle gave to it. -/
  | answered {n m : Nat} {rest : List Record} {answers : Oracle} {request : Request} {text : Text}
      (hOracle : oracle = some answers) (hReply : answers n request = .answer text)
      (hRest : Work oracle pass (n + 1) rest m) :
      Work oracle pass n (.asked pass request.user request.maxTokens ::
        .answered pass (some text) none :: rest) m
  /-- A question, and the reason why there is no answer. -/
  | unanswered {n m : Nat} {rest : List Record} {answers : Oracle} {request : Request}
      {reason : Text} (hOracle : oracle = some answers)
      (hReply : answers n request = .unavailable reason)
      (hRest : Work oracle pass (n + 1) rest m) :
      Work oracle pass n (.asked pass request.user request.maxTokens ::
        .answered pass none (some reason) :: rest) m

/-- The records of work that was aborted at an exchange with the oracle. -/
inductive Interrupted (oracle : Option Oracle) (pass : Text) :
    Nat → List Record → Abort → Nat → Prop where
  /-- The oracle failed, so that nothing follows the question. -/
  | failed {n m : Nat} {work : List Record} {answers : Oracle} {request : Request} {text : Text}
      (hWork : Work oracle pass n work m) (hOracle : oracle = some answers)
      (hReply : answers m request = .failure text) :
      Interrupted oracle pass n (work ++ [.asked pass request.user request.maxTokens])
        (.failed text) (m + 1)
  /-- The oracle answered, but its answer could not be read. -/
  | unreadable {n m : Nat} {work : List Record} {answers : Oracle} {request : Request}
      {text : Text} (cause : Abort) (hWork : Work oracle pass n work m)
      (hOracle : oracle = some answers) (hReply : answers m request = .answer text) :
      Interrupted oracle pass n (work ++
        [.asked pass request.user request.maxTokens, .answered pass (some text) none])
        cause (m + 1)

variable {oracle : Option Oracle} {pass : Text} {n m k : Nat} {before work : List Record}

theorem Work.append (hBefore : Work oracle pass n before m) (h : Work oracle pass m work k) :
    Work oracle pass n (before ++ work) k := by
  induction hBefore with
  | nothing => exact h
  | fixed location description metadata _ ih => exact .fixed location description metadata (ih h)
  | left reason _ ih => exact .left reason (ih h)
  | answered hOracle hReply _ ih => exact .answered hOracle hReply (ih h)
  | unanswered hOracle hReply _ ih => exact .unanswered hOracle hReply (ih h)

theorem Interrupted.behind {cause : Abort} (hBefore : Work oracle pass n before m)
    (h : Interrupted oracle pass m work cause k) :
    Interrupted oracle pass n (before ++ work) cause k := by
  cases h with
  | failed hWork hOracle hReply =>
    rw [← List.append_assoc]
    exact .failed (hBefore.append hWork) hOracle hReply
  | unreadable cause hWork hOracle hReply =>
    rw [← List.append_assoc]
    exact .unreadable cause (hBefore.append hWork) hOracle hReply

@[simp] theorem fixRecords_append (before work : List Record) :
    fixRecords (before ++ work) = fixRecords before + fixRecords work := by
  rw [fixRecords, List.countP_append]
  rfl

-- ---------------------------------------------------------------------------
-- Endless runs
-- ---------------------------------------------------------------------------

/-- With this progress the turn of a variable is begun, and it never ends. -/
def BeginsEndless (oracle : Option Oracle) (q : Progress) : Prop :=
  ∃ team v page, team.oracle = oracle ∧ Pass.defineFrom team v 0 page q = none

/-- The run is as endless behind a step as before it, or behind some work of the pass it has
come to a turn that never ends. -/
def Lasts (oracle : Option Oracle) (pass : Text) (s s' : Progress) : Prop :=
  s'.endless = s.endless ∨ pass = Pass.undefinedVariableName ∧ ∃ q work,
    q.records = s.records ++ work ∧
      Work oracle pass s.questions.length work q.questions.length ∧ BeginsEndless oracle q

theorem Lasts.trans {s s₁ s' : Progress} (hFirst : Lasts oracle pass s s₁)
    (hRecords : s₁.records = s.records ++ before)
    (hBefore : Work oracle pass s.questions.length before s₁.questions.length)
    (h : Lasts oracle pass s₁ s') : Lasts oracle pass s s' := by
  rcases hFirst with hSame | hEndless
  · rcases h with hSame' | ⟨hPass, q, work, hMore, hWork, hTurn⟩
    · exact .inl (hSame'.trans hSame)
    · refine .inr ⟨hPass, q, before ++ work, ?_, hBefore.append hWork, hTurn⟩
      rw [hMore, hRecords, List.append_assoc]
  · exact .inr hEndless

-- ---------------------------------------------------------------------------
-- Steps
-- ---------------------------------------------------------------------------

/-- What has come of a step is on record as work of the pass, where `Q` holds of the number
of fixes on record and the value. -/
inductive Traced {α : Type} (oracle : Option Oracle) (pass : Text) (Q : Nat → α → Prop)
    (s : Progress) : Except Abort α × Progress → Prop where
  | done {a : α} {s' : Progress} {work : List Record}
      (hRecords : s'.records = s.records ++ work)
      (hWork : Work oracle pass s.questions.length work s'.questions.length)
      (hValue : Q (fixRecords work) a) (hLasts : Lasts oracle pass s s') :
      Traced oracle pass Q s (.ok a, s')
  | aborted {cause : Abort} {s' : Progress} {work : List Record}
      (hRecords : s'.records = s.records ++ work)
      (hWork : Interrupted oracle pass s.questions.length work cause s'.questions.length)
      (hLasts : Lasts oracle pass s s') : Traced oracle pass Q s (.error cause, s')

/-- A step is on record as work of the pass wherever it is made. -/
def Run.Traces {α : Type} (oracle : Option Oracle) (pass : Text) (Q : Nat → α → Prop)
    (x : Run α) : Prop :=
  ∀ s, Traced oracle pass Q s (x s)

section Steps

variable {α β : Type} {Q : Nat → α → Prop} {R : Nat → β → Prop}

/-- What is on record behind work is on record with it. -/
theorem Traced.behind {s s₁ : Progress} {out : Except Abort β × Progress}
    {R' : Nat → β → Prop} (hRecords : s₁.records = s.records ++ before)
    (hBefore : Work oracle pass s.questions.length before s₁.questions.length)
    (hFirst : Lasts oracle pass s s₁) (h : Traced oracle pass R' s₁ out)
    (hValue : ∀ k b, R' k b → R (fixRecords before + k) b) :
    Traced oracle pass R s out := by
  cases h with
  | @done b s' work hMore hWork hHere hLasts =>
    have hAll : s'.records = s.records ++ (before ++ work) := by
      rw [hMore, hRecords, List.append_assoc]
    refine .done hAll (hBefore.append hWork) ?_ (hFirst.trans hRecords hBefore hLasts)
    rw [fixRecords_append]
    exact hValue _ b hHere
  | @aborted cause s' work hMore hWork hLasts =>
    have hAll : s'.records = s.records ++ (before ++ work) := by
      rw [hMore, hRecords, List.append_assoc]
    exact .aborted hAll (hWork.behind hBefore) (hFirst.trans hRecords hBefore hLasts)

/-- The value of a step is read another way. -/
theorem Traced.map {s s' : Progress} {outcome : Except Abort α} {f : α → β}
    (h : Traced oracle pass Q s (outcome, s')) (hValue : ∀ k a, Q k a → R k (f a)) :
    Traced oracle pass R s (outcome.map f, s') := by
  cases h with
  | done hRecords hWork hHere hLasts => exact .done hRecords hWork (hValue _ _ hHere) hLasts
  | aborted hRecords hWork hLasts => exact .aborted hRecords hWork hLasts

namespace Run.Traces

theorem ofPure {a : α} (h : Q 0 a) : Traces oracle pass Q (pure a) := fun s =>
  .done (List.append_nil s.records).symm .nothing h (.inl rfl)

theorem mono {Q' : Nat → α → Prop} {x : Run α} (hx : Traces oracle pass Q' x)
    (h : ∀ k a, Q' k a → Q k a) : Traces oracle pass Q x := by
  intro s
  cases hStep : x s with
  | mk outcome s' =>
    have hTraced := hx s
    rw [hStep] at hTraced
    cases hTraced with
    | done hRecords hWork hValue hLasts => exact .done hRecords hWork (h _ _ hValue) hLasts
    | aborted hRecords hWork hLasts => exact .aborted hRecords hWork hLasts

/-- Two steps are on record as the first and then the second. -/
theorem bind {x : Run α} {f : α → Run β} (hx : Traces oracle pass Q x)
    (hf : ∀ k a, Q k a → Traces oracle pass (fun l b => R (k + l) b) (f a)) :
    Traces oracle pass R (x >>= f) := by
  intro s
  cases hStep : x s with
  | mk outcome s₁ =>
    have hTraced := hx s
    rw [hStep] at hTraced
    cases hTraced with
    | @done a _ work hRecords hWork hValue hLasts =>
      rw [bind_of_ok f hStep]
      exact Traced.behind hRecords hWork hLasts (hf _ a hValue s₁) fun _ _ h => h
    | aborted hRecords hWork hLasts =>
      rw [bind_of_error f hStep]
      exact .aborted hRecords hWork hLasts

/-- Running the page leaves nothing on record. -/
theorem executeThen {executor : Executor} {page : Text} {settle : Option Int}
    {f : List Page.Event → Run β} (hf : ∀ events, Traces oracle pass R (f events)) :
    Traces oracle pass R (Run.execute executor page settle >>= f) := by
  intro s
  rw [execute_bind_apply]
  have hSame : (s.settling settle).records = s.records ++ [] := (List.append_nil s.records).symm
  refine Traced.behind hSame .nothing (.inl rfl) (hf _ _) ?_
  intro k b h
  exact (Nat.zero_add k).symm ▸ h

/-- A note of what was left counts as no fix. -/
theorem noteThen {reason : Text} {f : Unit → Run β} (hf : Traces oracle pass R (f ())) :
    Traces oracle pass R (Run.log (.patchSkipped pass reason) >>= f) := by
  intro s
  have hWork : Work oracle pass s.questions.length [.patchSkipped pass reason]
      (s.noting (.patchSkipped pass reason)).questions.length := .left reason .nothing
  rw [log_bind_apply]
  refine Traced.behind rfl hWork (.inl rfl) (hf _) ?_
  intro k b h
  exact (Nat.zero_add k).symm ▸ h

/-- A note of a fix counts as one. -/
theorem fixThen {location description : Text} {metadata : List (Text × Json)} {f : Unit → Run β}
    (hf : Traces oracle pass (fun k b => R (1 + k) b) (f ())) :
    Traces oracle pass R
      (Run.log (.fixApplied pass location description metadata) >>= f) := by
  intro s
  have hWork : Work oracle pass s.questions.length
      [.fixApplied pass location description metadata]
      (s.noting (.fixApplied pass location description metadata)).questions.length :=
    .fixed location description metadata .nothing
  rw [log_bind_apply]
  exact Traced.behind rfl hWork (.inl rfl) (hf _) fun _ _ h => h

/-- A question is on record with its answer. Behind an answer the step may be aborted at
once, because the answer cannot be read. -/
theorem askReadThen {request : Request} {f : Option Text → Run β}
    (hNone : Traces oracle pass R (f none))
    (hSome : ∀ text s, (∃ cause, f (some text) s = (.error cause, s)) ∨
      Traced oracle pass R s (f (some text) s)) :
    Traces oracle pass R (Run.ask pass oracle request >>= f) := by
  intro s
  cases oracle with
  | none =>
    -- the pass notes that there is nobody to ask
    exact noteThen (f := fun _ => f none) hNone s
  | some answers =>
    have hSent : ∀ r : Record, ((s.sending pass request).noting r).records = s.records ++
        [.asked pass request.user request.maxTokens, r] := by
      intro r
      show s.records ++ [_] ++ [r] = _
      rw [List.append_assoc]
      rfl
    have hNumber : ∀ r : Record,
        ((s.sending pass request).noting r).questions.length = s.questions.length + 1 := by
      intro r
      simp
    cases hReply : answers s.questions.length request with
    | failure text =>
      rw [bind_of_error f (ask_of_failure hReply)]
      have hLength : (s.sending pass request).questions.length = s.questions.length + 1 := by
        simp
      have hFailed : Interrupted (some answers) pass s.questions.length
          ([] ++ [.asked pass request.user request.maxTokens]) (.failed text)
          (s.sending pass request).questions.length := by
        rw [hLength]
        exact .failed .nothing rfl hReply
      exact .aborted rfl hFailed (.inl rfl)
    | unavailable reason =>
      rw [bind_of_ok f (ask_of_unavailable hReply)]
      refine Traced.behind (hSent _) ?_ (.inl rfl) (hNone _) ?_
      · rw [hNumber]
        exact .unanswered rfl hReply .nothing
      · intro k b h
        exact (Nat.zero_add k).symm ▸ h
    | answer text =>
      rw [bind_of_ok f (ask_of_answer hReply)]
      rcases hSome text ((s.sending pass request).noting (.answered pass (some text) none)) with
        ⟨cause, hCause⟩ | hTraced
      · rw [hCause]
        have hUnread : Interrupted (some answers) pass s.questions.length
            ([] ++ [.asked pass request.user request.maxTokens, .answered pass (some text) none])
            cause ((s.sending pass request).noting
              (.answered pass (some text) none)).questions.length := by
          rw [hNumber]
          exact .unreadable cause .nothing rfl hReply
        exact .aborted (hSent _) hUnread (.inl rfl)
      · refine Traced.behind (hSent _) ?_ (.inl rfl) hTraced ?_
        · rw [hNumber]
          exact .answered rfl hReply .nothing
        · intro k b h
          exact (Nat.zero_add k).symm ▸ h

/-- A question whose answer can be dealt with in any case. -/
theorem askThen {request : Request} {f : Option Text → Run β}
    (hNone : Traces oracle pass R (f none))
    (hSome : ∀ text, Traces oracle pass R (f (some text))) :
    Traces oracle pass R (Run.ask pass oracle request >>= f) :=
  askReadThen hNone fun text s => .inr (hSome text s)

/-- An answer that is read first of all. -/
theorem readThen {r : Except Abort α} {f : α → Run β} (hf : ∀ a, Traces oracle pass R (f a))
    (s : Progress) : (∃ cause, (Run.ofExcept r >>= f) s = (.error cause, s)) ∨
      Traced oracle pass R s ((Run.ofExcept r >>= f) s) := by
  cases r with
  | error cause => exact .inl ⟨cause, bind_of_error f (ofExcept_error cause s)⟩
  | ok a =>
    rw [bind_of_ok f (ofExcept_ok a s)]
    exact .inr (hf a s)

end Run.Traces

end Steps

-- ---------------------------------------------------------------------------
-- Counts
-- ---------------------------------------------------------------------------

/-- The fixes on record agree with those counted: there are some if some are counted, and
one may stand for many. -/
structure Tallied (records fixes : Nat) : Prop where
  shown : 0 < records ↔ 0 < fixes
  le : records ≤ fixes

theorem Tallied.same (n : Nat) : Tallied n n := ⟨Iff.rfl, Nat.le_refl n⟩

theorem Tallied.one {n : Nat} (h : n ≠ 0) : Tallied 1 n := ⟨by omega, by omega⟩

theorem Tallied.add {a b : Nat} (h : Tallied n m) (h' : Tallied a b) : Tallied (n + a) (m + b) := by
  have hFirst := h.shown
  have hSecond := h'.shown
  refine ⟨?_, Nat.add_le_add h.le h'.le⟩
  omega

/-- A step that puts no fix on record. -/
def Run.FixesNothing {α : Type} (oracle : Option Oracle) (pass : Text) (x : Run α) : Prop :=
  Traces oracle pass (fun k _ => k = 0) x

/-- A step that counts the very fixes it puts on record. -/
def Run.Counts {α : Type} (oracle : Option Oracle) (pass : Text) (x : Run (α × Nat)) : Prop :=
  Traces oracle pass (fun k r => k = r.2) x

/-- A step whose fixes on record agree with those it counts. -/
def Run.Tallies {α : Type} (oracle : Option Oracle) (pass : Text) (x : Run (α × Nat)) : Prop :=
  Traces oracle pass (fun k r => Tallied k r.2) x

theorem Run.Counts.tallies {α : Type} {x : Run (α × Nat)} (hx : Counts oracle pass x) :
    Tallies oracle pass x :=
  hx.mono fun k _ hCount => hCount ▸ .same k

end SketchRepair
