import SketchRepair.Repair.Pass

/-!
# SketchRepair — the steps of a run, one at a time

A run is followed by looking at its steps in order: each takes the progress made so
far to a value or an abort, and to the progress behind it. The lemmas here say this
of every kind of step, so that no other proof opens one.

* `bind_of_ok`, `bind_eq_of_ok`, `bind_of_error` — a step behind another one;
* `exists_of_bind_eq_ok` — the steps that a value has come through;
* `log_apply`, `log_bind_apply`, `execute_bind_apply` — a record, and a page run;
* `ofLoop_of_some`, `ofLoop_of_none` — a loop that ends, and one that does not;
* `ask_of_none`, `ask_of_answer`, `ask_of_unavailable`, `ask_of_failure` — the
  four ends of a question;
* `ask_of_unaided` — a question when no answer is to be had;
* `AsksAtMost.bind` — what two steps ask;
* `Pass.run_of_ok`, `Pass.run_of_error` — the two ends of a pass on a page that it
  concerns.
-/

namespace SketchRepair

namespace Progress

/-- The progress behind a record. -/
def noting (s : Progress) (r : Record) : Progress := { s with records := s.records ++ [r] }

/-- The progress behind a question that was sent. -/
def sending (s : Progress) (pass : Text) (request : Request) : Progress :=
  { s.noting (.asked pass request.user request.maxTokens) with
    questions := s.questions ++ [request] }

/-- The progress behind a page run. -/
def settling (s : Progress) (settle : Option Int) : Progress :=
  { s with settleTimes := s.settleTimes ++ [settle] }

@[simp] theorem questions_settling (s : Progress) (settle : Option Int) :
    (s.settling settle).questions = s.questions := rfl

@[simp] theorem records_settling (s : Progress) (settle : Option Int) :
    (s.settling settle).records = s.records := rfl

@[simp] theorem questions_noting (s : Progress) (r : Record) :
    (s.noting r).questions = s.questions := rfl

@[simp] theorem settleTimes_noting (s : Progress) (r : Record) :
    (s.noting r).settleTimes = s.settleTimes := rfl

@[simp] theorem records_noting (s : Progress) (r : Record) :
    (s.noting r).records = s.records ++ [r] := rfl

@[simp] theorem endless_settling (s : Progress) (settle : Option Int) :
    (s.settling settle).endless = s.endless := rfl

@[simp] theorem questions_sending (s : Progress) (pass : Text) (request : Request) :
    (s.sending pass request).questions = s.questions ++ [request] := rfl

@[simp] theorem endless_sending (s : Progress) (pass : Text) (request : Request) :
    (s.sending pass request).endless = s.endless := rfl

end Progress

namespace Run

variable {α β : Type} {s q : Progress}

@[simp] theorem pure_apply (a : α) (s : Progress) : (pure a : Run α) s = (.ok a, s) := rfl

@[simp] theorem abort_apply (e : Abort) (s : Progress) : (abort e : Run α) s = (.error e, s) := rfl

@[simp] theorem log_apply (r : Record) (s : Progress) : log r s = (.ok (), s.noting r) := rfl

@[simp] theorem ofExcept_ok (a : α) (s : Progress) :
    (ofExcept (.ok a) : Run α) s = (.ok a, s) := rfl

@[simp] theorem ofExcept_error (e : Abort) (s : Progress) :
    (ofExcept (.error e) : Run α) s = (.error e, s) := rfl

theorem ofExcept_of_ok {x : Except Abort α} {a : α} (h : x = .ok a) (s : Progress) :
    ofExcept x s = (.ok a, s) := by
  rw [h, ofExcept_ok]

/-- Behind a step that yields a value, the run goes on with that value. -/
theorem bind_of_ok {x : Run α} {a : α} (f : α → Run β) (h : x s = (.ok a, q)) :
    (x >>= f) s = f a q := by
  show andThen x f s = f a q
  rw [andThen, h]

/-- Two steps, both of which are known. -/
theorem bind_eq_of_ok {x : Run α} {a : α} {f : α → Run β} {r : Except Abort β × Progress}
    (hx : x s = (.ok a, q)) (hf : f a q = r) : (x >>= f) s = r :=
  (bind_of_ok f hx).trans hf

/-- Behind a step that is aborted, nothing happens any more. -/
theorem bind_of_error {x : Run α} {e : Abort} (f : α → Run β) (h : x s = (.error e, q)) :
    (x >>= f) s = (.error e, q) := by
  show andThen x f s = (.error e, q)
  rw [andThen, h]

/-- A run that yields a value has gone through all of its steps. -/
theorem exists_of_bind_eq_ok {x : Run α} {f : α → Run β} {b : β} {s' : Progress}
    (h : (x >>= f) s = (.ok b, s')) : ∃ a q, x s = (.ok a, q) ∧ f a q = (.ok b, s') := by
  cases hx : x s with
  | mk outcome q =>
    cases outcome with
    | error e =>
      rw [bind_of_error f hx] at h
      simp at h
    | ok a =>
      rw [bind_of_ok f hx] at h
      exact ⟨a, q, rfl, h⟩

theorem eq_of_pure_eq_ok {a b : α} {s' : Progress} (h : (pure a : Run α) s = (.ok b, s')) :
    a = b := by
  rw [pure_apply, Prod.mk.injEq, Except.ok.injEq] at h
  exact h.1

theorem eq_ok_of_ofExcept {x : Except Abort α} {a : α} (h : ofExcept x s = (.ok a, q)) :
    x = .ok a := by
  cases x with
  | error e => simp at h
  | ok b =>
    rw [ofExcept_ok, Prod.mk.injEq] at h
    exact h.1

/-- A loop that comes to an end has its outcome. -/
theorem ofLoop_of_some {standIn : α} {loop : Progress → Option (Except Abort α × Progress)}
    {out : Except Abort α × Progress} (h : loop s = some out) : ofLoop standIn loop s = out := by
  rw [ofLoop, h, Option.getD_some]

/-- A loop without an end marks the progress. -/
theorem ofLoop_of_none {standIn : α} {loop : Progress → Option (Except Abort α × Progress)}
    (h : loop s = none) : ofLoop standIn loop s = (.ok standIn, { s with endless := true }) := by
  rw [ofLoop, h, Option.getD_none]

theorem progress_bind_apply (f : Progress → Run β) (s : Progress) :
    (progress >>= f) s = f s s := rfl

/-- Behind a record the run goes on. -/
theorem log_bind_apply (r : Record) (f : Unit → Run β) (s : Progress) :
    (log r >>= f) s = f () (s.noting r) := rfl

/-- Behind a page run the run goes on with the events. -/
theorem execute_bind_apply (executor : Executor) (page : Text) (settle : Option Int)
    (f : List Page.Event → Run β) (s : Progress) :
    (execute executor page settle >>= f) s =
      f (executor s.settleTimes.length page) (s.settling settle) := rfl

/-! ## Questions -/

variable {pass text : Text} {oracle : Oracle} {request : Request}

theorem ask_of_none (pass : Text) (request : Request) (s : Progress) :
    ask pass none request s =
      (.ok none, s.noting (.patchSkipped pass "no suggestion oracle configured".toList)) := rfl

/-- Sending a question takes the oracle's reply into the run. -/
theorem ask_apply (pass : Text) (oracle : Oracle) (request : Request) (s : Progress) :
    ask pass (some oracle) request s =
      match oracle s.questions.length request with
      | .answer text =>
        (.ok (some text), (s.sending pass request).noting (.answered pass (some text) none))
      | .unavailable reason =>
        (.ok none, (s.sending pass request).noting (.answered pass none (some reason)))
      | .failure text => (.error (.failed text), s.sending pass request) := by
  rw [ask, log_bind_apply]
  refine (bind_of_ok (q := s.sending pass request) _ rfl).trans ?_
  rw [Progress.questions_noting]
  cases oracle s.questions.length request <;> rfl

theorem ask_of_answer (h : oracle s.questions.length request = .answer text) :
    ask pass (some oracle) request s =
      (.ok (some text), (s.sending pass request).noting (.answered pass (some text) none)) := by
  rw [ask_apply, h]

theorem ask_of_unavailable (h : oracle s.questions.length request = .unavailable text) :
    ask pass (some oracle) request s =
      (.ok none, (s.sending pass request).noting (.answered pass none (some text))) := by
  rw [ask_apply, h]

theorem ask_of_failure (h : oracle s.questions.length request = .failure text) :
    ask pass (some oracle) request s = (.error (.failed text), s.sending pass request) := by
  rw [ask_apply, h]

/-- An answer comes from the oracle. -/
theorem exists_oracle_of_ask {answer : Text} {oracle? : Option Oracle}
    (h : ask pass oracle? request s = (.ok (some answer), q)) :
    ∃ oracle n, oracle? = some oracle ∧ oracle n request = .answer answer := by
  cases oracle? with
  | none =>
    rw [ask_of_none] at h
    simp at h
  | some oracle =>
    refine ⟨oracle, s.questions.length, rfl, ?_⟩
    rw [ask_apply] at h
    split at h
    · next text hReply =>
      rw [Prod.mk.injEq, Except.ok.injEq, Option.some.injEq] at h
      rw [hReply, h.1]
    · simp at h
    · simp at h

end Run

/-- No answer is to be had: there is no oracle, or it is unavailable at every call. -/
def Collaborators.IsUnaided (team : Collaborators) : Prop :=
  ∀ oracle, team.oracle = some oracle → ∀ n request, ∃ reason,
    oracle n request = .unavailable reason

namespace Run

variable {α β : Type} {s q : Progress}

/-- Without aid there is no answer, and the pass goes on. -/
theorem ask_of_unaided {team : Collaborators} (hTeam : team.IsUnaided) (pass : Text)
    (request : Request) (s : Progress) :
    ∃ q, ask pass team.oracle request s = (.ok none, q) ∧ q.endless = s.endless := by
  cases hOracle : team.oracle with
  | none => exact ⟨_, ask_of_none pass request s, rfl⟩
  | some oracle =>
    obtain ⟨reason, hReply⟩ := hTeam oracle hOracle s.questions.length request
    exact ⟨_, ask_of_unavailable hReply, rfl⟩

/-- Whatever becomes of it, a step asks no more than these questions, in this order. -/
def AsksAtMost (x : Run α) (requests : List Request) : Prop :=
  ∀ s, ∃ asked, (x s).2.questions = s.questions ++ asked ∧ asked.Sublist requests

namespace AsksAtMost

variable {x : Run α} {f : α → Run β} {before behind : List Request}

theorem ofPure (a : α) : AsksAtMost (pure a) [] := fun s =>
  ⟨[], (List.append_nil s.questions).symm, List.nil_sublist []⟩

theorem ofExcept (r : Except Abort α) : AsksAtMost (Run.ofExcept r) [] := by
  intro s
  refine ⟨[], ?_, List.nil_sublist []⟩
  cases r <;> simp

theorem log (r : Record) : AsksAtMost (Run.log r) [] := fun s =>
  ⟨[], (List.append_nil s.questions).symm, List.nil_sublist []⟩

theorem ask (pass : Text) (oracle : Option Oracle) (request : Request) :
    AsksAtMost (Run.ask pass oracle request) [request] := by
  intro s
  cases oracle with
  | none => exact ⟨[], (List.append_nil s.questions).symm, List.nil_sublist _⟩
  | some oracle =>
    refine ⟨[request], ?_, List.Sublist.refl _⟩
    rw [ask_apply]
    cases oracle s.questions.length request <;> rfl

/-- Two steps ask what the first asks, and then what the second asks. -/
theorem bind (hx : AsksAtMost x before) (hf : ∀ a, AsksAtMost (f a) behind) :
    AsksAtMost (x >>= f) (before ++ behind) := by
  intro s
  obtain ⟨asked, hAsked, hSub⟩ := hx s
  cases hRun : x s with
  | mk outcome q =>
    rw [hRun] at hAsked
    cases outcome with
    | error e =>
      rw [bind_of_error f hRun]
      exact ⟨asked, hAsked, hSub.trans (List.sublist_append_left _ _)⟩
    | ok a =>
      rw [bind_of_ok f hRun]
      obtain ⟨later, hLater, hSub'⟩ := hf a q
      refine ⟨asked ++ later, ?_, hSub.append hSub'⟩
      rw [hLater, hAsked, List.append_assoc]

/-- Behind a step nothing more is asked. -/
theorem bind_silent (hx : AsksAtMost x before) (hf : ∀ a, AsksAtMost (f a) []) :
    AsksAtMost (x >>= f) before := by
  have hBind := hx.bind hf
  rwa [List.append_nil] at hBind

theorem mono (hx : AsksAtMost x before) (h : before.Sublist behind) : AsksAtMost x behind := by
  intro s
  obtain ⟨asked, hAsked, hSub⟩ := hx s
  exact ⟨asked, hAsked, hSub.trans h⟩

end AsksAtMost

end Run

/-! ## Passes -/

namespace Pass

variable {p : Pass} {team : Collaborators} {page text : Text} {n : Nat} {s s' : Progress}

/-- A pass that does not concern the page is skipped. -/
theorem run_of_not_applies (hApplies : ¬ p.applies page = true) :
    p.run team page s = (.ok { name := p.name, page := page, skipped := true },
      s.noting (.patchSkipped p.name "not applicable to document".toList)) := by
  rw [run, if_neg hApplies]
  exact Run.log_bind_apply _ _ _

/-- A pass that yields a page yields a result. -/
theorem run_of_ok (hApplies : p.applies page = true)
    (hRepair : p.repair team page (s.noting (.passStarted p.name)) = (.ok (text, n), s')) :
    p.run team page s =
      (.ok { name := p.name, page := if n = 0 then page else text, fixes := n },
        s'.noting (.completed p.name n untimed none)) := by
  rw [run, if_pos hApplies, Run.log_bind_apply]
  exact Run.bind_of_ok _ hRepair

/-- A pass whose repair is aborted is aborted. -/
theorem run_of_error {cause : Abort} (hApplies : p.applies page = true)
    (hRepair : p.repair team page (s.noting (.passStarted p.name)) = (.error cause, s')) :
    p.run team page s = (.error cause, s') := by
  rw [run, if_pos hApplies, Run.log_bind_apply]
  exact Run.bind_of_error _ hRepair

end Pass

end SketchRepair
