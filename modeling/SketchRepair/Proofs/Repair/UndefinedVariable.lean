import SketchRepair.Proofs.Document.Standing
import SketchRepair.Proofs.Page.Fault
import SketchRepair.Proofs.Repair.Run
import SketchRepair.Repair.Pass.UndefinedVariable

/-!
# SketchRepair — the scripts that a turn visits

In the turn of an undefined variable the scripts of the page are visited by number, and
behind every change they are looked up again. The numbers are those of the scripts that
are not blank, so all is well as long as a change leaves behind it the scripts that were
behind it before. A declaration that is put before a script does. An answer need not: if
its lines make the script blank, the script is counted no more and the next one is passed
over; if they hold a closing tag, what follows it may be met as a further script. Answers
of that kind may keep a turn going forever.

* `undefinedVariable_of_isEmpty`, `undefinedVariable_of_unheard`,
  `undefinedVariable_of_unreadable`, `undefinedVariable_of_faults` — how the pass begins;
* `defineIn_defined` — what becomes of a script;
* `Turn` — the rules that a turn goes by, with the visits that are made;
* `visit_cases`, `exists_turn_of_yields` — every visit is one of three kinds, so the visits
  go by the rules;
* `defineFrom_eq_some_iff`, `defineFrom_eq_none_iff` — a turn that ends, and one that does not;
* `Turn.isPrefix_of_keepsRest`, `Turn.eq_drop_iff_keepsRest` — the scripts are visited as
  they stood exactly when every visit keeps the rest;
* `Turn.isTorn_of_not_keepsRest` — only an answer does not keep the rest;
* `Turn.length_le_of_not_opens` — only an answer with a closing tag makes more visits than
  there were scripts;
* `defineFrom_account` — all that is known of a turn.
-/

namespace SketchRepair

namespace Pass

open Document (Element Standing IsContent inlineScripts standingScripts)
open Run (AsksAtMost)

variable {team : Collaborators} {v : Page.UndefinedVariable} {page : Text} {s s' : Progress}

/-- A page without a script that is not blank does not concern the pass. -/
theorem undefinedVariable_of_isEmpty (hEmpty : (inlineScripts page).isEmpty = true) :
    undefinedVariable.repair team page s = (.ok (page, 0), s) := by
  unfold undefinedVariable
  dsimp only
  rw [if_pos hEmpty]
  rfl

/-- Nobody reports a fault. -/
theorem undefinedVariable_of_unheard (hScript : ¬ (inlineScripts page).isEmpty = true)
    (hExecutor : team.executor = none) :
    undefinedVariable.repair team page s = (.ok (page, 0),
      s.noting (.patchSkipped undefinedVariableName "no page executor configured".toList)) := by
  unfold undefinedVariable
  dsimp only
  rw [if_neg hScript, hExecutor]
  rfl

section Heard

variable {executor : Executor} (hScript : ¬ (inlineScripts page).isEmpty = true)
  (hExecutor : team.executor = some executor)
include hScript hExecutor

/-- Faults that cannot be read abort the pass. -/
theorem undefinedVariable_of_unreadable {cause : Decimal.ReadError}
    (hCause : Page.undefinedVariables (executor s.settleTimes.length page) = .error cause) :
    undefinedVariable.repair team page s = (.error (.unreadable cause), s.settling none) := by
  unfold undefinedVariable
  dsimp only
  rw [if_neg hScript, hExecutor]
  dsimp only
  rw [Run.execute_bind_apply, hCause]
  exact Run.bind_of_error _ rfl

/-- The variables of faults that can be read are defined one after the other. -/
theorem undefinedVariable_of_faults {faults : List Page.UndefinedVariable}
    (hFaults : Page.undefinedVariables (executor s.settleTimes.length page) = .ok faults) :
    undefinedVariable.repair team page s =
      defineAll team page (firstOfEachName faults) (s.settling none) := by
  unfold undefinedVariable
  dsimp only
  rw [if_neg hScript, hExecutor]
  dsimp only
  rw [Run.execute_bind_apply, hFaults]
  exact Run.bind_of_ok _ rfl

end Heard

/-- What is asked about a variable in a script. -/
def questionOn (v : Page.UndefinedVariable) (script : Text) : Request :=
  Prompt.UndefinedContext.request ⟨script, v.name, v.message⟩

theorem defineIn_asksAtMost (team : Collaborators) (v : Page.UndefinedVariable) (script : Text) :
    AsksAtMost (defineIn team v script) [questionOn v script] := by
  unfold defineIn
  split
  · exact (AsksAtMost.ofPure _).mono (List.nil_sublist _)
  · refine (AsksAtMost.ask _ _ _).bind_silent ?_
    intro found
    cases found with
    | none => exact .ofPure _
    | some answer =>
      refine (AsksAtMost.ofExcept _).bind_silent ?_
      intro patches
      split
      · exact (AsksAtMost.log _).bind_silent fun _ => .ofPure _
      · exact .ofPure _

theorem defineInElement_asksAtMost (team : Collaborators) (v : Page.UndefinedVariable)
    (e : Element) (page : Text) :
    AsksAtMost (defineInElement team v e page) [questionOn v e.content] := by
  unfold defineInElement
  split
  · refine (defineIn_asksAtMost team v e.content).bind_silent ?_
    rintro ⟨fixed, n⟩
    dsimp only
    split
    · exact .ofPure _
    · exact (AsksAtMost.log _).bind_silent fun _ => .ofPure _
  · exact (AsksAtMost.ofPure _).mono (List.nil_sublist _)

-- ---------------------------------------------------------------------------
-- New contents
-- ---------------------------------------------------------------------------

/-- The oracle was asked about a script, and the lines it gave make this of the script. -/
def Answered (team : Collaborators) (v : Page.UndefinedVariable) (script new : Text) : Prop :=
  ∃ oracle n answer patches, team.oracle = some oracle ∧
    oracle n (questionOn v script) = .answer answer ∧
    Prompt.UndefinedContext.readAnswer ⟨script, v.name, v.message⟩ answer = .ok patches ∧
    new = replaceLines v.name script patches

/-- What becomes of a script: a default declaration goes before it, or an answer
changes its lines. -/
inductive Defined (team : Collaborators) (v : Page.UndefinedVariable) (script : Text) :
    Text → Prop where
  | declared {comment : Text} (hPlain : '<' ∉ comment) :
      Defined team v script (declareBefore v.name comment script)
  | answered {new : Text} (h : Answered team v script new) : Defined team v script new

theorem defineIn_defined {script new : Text} {n : Nat}
    (h : defineIn team v script s = (.ok (new, n), s')) : n = 0 ∨ Defined team v script new := by
  unfold defineIn at h
  cases hDeclared : Script.conditionalDeclaration? v.name script with
  | some declaration =>
    rw [hDeclared] at h
    obtain ⟨rfl, -⟩ := Prod.mk.inj (Run.eq_of_pure_eq_ok h)
    exact .inr (.declared (by decide))
  | none =>
    rw [hDeclared] at h
    obtain ⟨found, q, hAsk, h⟩ := Run.exists_of_bind_eq_ok h
    cases found with
    | none =>
      obtain ⟨rfl, -⟩ := Prod.mk.inj (Run.eq_of_pure_eq_ok h)
      exact .inr (.declared (by decide))
    | some answer =>
      obtain ⟨oracle, k, hOracle, hAnswer⟩ := Run.exists_oracle_of_ask hAsk
      obtain ⟨patches, q', hPatches, h⟩ := Run.exists_of_bind_eq_ok h
      have hRead := Run.eq_ok_of_ofExcept hPatches
      split at h
      · -- nothing is replaced
        rw [Run.log_bind_apply] at h
        exact .inl (Prod.mk.inj (Run.eq_of_pure_eq_ok h)).2.symm
      · obtain ⟨rfl, -⟩ := Prod.mk.inj (Run.eq_of_pure_eq_ok h)
        exact .inr (.answered ⟨oracle, k, answer, patches, hOracle, hAnswer, hRead, rfl⟩)

theorem allBlank_declareBefore (name comment script : Text) :
    Text.allBlank (declareBefore name comment script) = false := by
  rfl

theorem isContent_declareBefore {name comment script : Text} (hName : '<' ∉ name)
    (hComment : '<' ∉ comment) (h : IsContent .script script) :
    IsContent .script (declareBefore name comment script) := by
  have hPlain : '<' ∉ defaultDeclaration name comment ++ ['\n'] := by
    unfold defaultDeclaration
    simp only [List.mem_append, not_or]
    exact ⟨⟨⟨⟨by decide, hName⟩, by decide⟩, hComment⟩, by decide⟩
  intro hInfix
  rw [declareBefore, List.map_append] at hInfix
  exact h (Text.infix_of_append (Text.lt_not_mem_map_fold hPlain) hInfix)

theorem defineInElement_left {e : Element} {left : Text} {n : Nat}
    (h : defineInElement team v e page s = (.ok (left, n), s')) :
    left = page ∨ ∃ new, Defined team v e.content new ∧ left = e.replaceContent new page := by
  unfold defineInElement at h
  split at h
  · obtain ⟨⟨new, m⟩, q, hDefine, h⟩ := Run.exists_of_bind_eq_ok h
    dsimp only at h
    split at h
    · exact .inl (Prod.mk.inj (Run.eq_of_pure_eq_ok h)).1.symm
    · next hCount =>
      rw [Run.log_bind_apply] at h
      exact .inr ⟨new, (defineIn_defined hDefine).resolve_left hCount,
        (Prod.mk.inj (Run.eq_of_pure_eq_ok h)).1.symm⟩
  · exact .inl (Prod.mk.inj (Run.eq_of_pure_eq_ok h)).1.symm

-- ---------------------------------------------------------------------------
-- Turns
-- ---------------------------------------------------------------------------

/-- A visit to a script in the turn of a variable. -/
structure Visit where
  number : Nat
  page : Text
  script : Element
  /-- The page behind the visit. -/
  left : Text

namespace Visit

/-- The script as it was met. -/
def standing (w : Visit) : Standing := w.script.standing w.page

/-- The page has the same scripts behind the one visited as before the visit. -/
def KeepsRest (w : Visit) : Prop :=
  (standingScripts w.left).drop (w.number + 1) = (standingScripts w.page).drop (w.number + 1)

/-- The script was given a content by an answer, and this content is blank or holds a
closing tag. -/
def IsTorn (w : Visit) (team : Collaborators) (v : Page.UndefinedVariable) : Prop :=
  ∃ new, Answered team v w.script.content new ∧ w.left = w.script.replaceContent new w.page ∧
    (Text.allBlank new = true ∨ ¬ IsContent .script new)

/-- The script was given a content by an answer, and this content holds a closing tag, so that
what stands behind the tag may be met as a further script. -/
def Opens (w : Visit) (team : Collaborators) (v : Page.UndefinedVariable) : Prop :=
  ∃ new, Answered team v w.script.content new ∧ w.left = w.script.replaceContent new w.page ∧
    ¬ IsContent .script new

theorem keepsRest_of_same (w : Visit) (h : w.left = w.page) : w.KeepsRest := by
  rw [KeepsRest, h]

/-- A content that is neither blank nor holds a closing tag keeps the rest. -/
theorem keepsRest_of_isContent (w : Visit) {new : Text}
    (hScript : (inlineScripts w.page)[w.number]? = some w.script)
    (hNew : w.left = w.script.replaceContent new w.page) (hSolid : Text.allBlank new = false)
    (hContent : IsContent .script new) : w.KeepsRest := by
  have hAhead := Document.drop_standingScripts_replaceContent hScript hContent
  rw [hSolid] at hAhead
  rw [KeepsRest, hNew, ← List.drop_drop, hAhead]
  rfl

end Visit

/-- What a turn comes to when `n` fixes were made before. -/
def behindFixes (n : Nat) (outcome : Except Abort (Text × Nat)) : Except Abort (Text × Nat) :=
  outcome.map fun r => (r.1, n + r.2)

@[simp] theorem behindFixes_ok (n : Nat) (r : Text × Nat) :
    behindFixes n (.ok r) = .ok (r.1, n + r.2) := rfl

theorem behindFixes_eq_ok_iff {n : Nat} {outcome : Except Abort (Text × Nat)}
    {change : Text × Nat} :
    behindFixes n outcome = .ok change ↔ ∃ r, outcome = .ok r ∧ (r.1, n + r.2) = change := by
  cases outcome with
  | error cause => simp [behindFixes, Except.map]
  | ok r => simp

theorem behindFixes_zero (outcome : Except Abort (Text × Nat)) :
    behindFixes 0 outcome = outcome := by
  cases outcome with
  | error cause => rfl
  | ok r => rw [behindFixes_ok, Nat.zero_add]

theorem behindFixes_behindFixes (m n : Nat) (outcome : Except Abort (Text × Nat)) :
    behindFixes m (behindFixes n outcome) = behindFixes (m + n) outcome := by
  cases outcome with
  | error cause => rfl
  | ok r => simp only [behindFixes_ok, Nat.add_assoc]

/-- How a turn goes on from the script number `i` of a page, with the visits that are
made and what has come of it: nothing, as long as it is not over. -/
inductive Turn (team : Collaborators) (v : Page.UndefinedVariable) :
    (i : Nat) → Text → Progress →
      List Visit → Option (Except Abort (Text × Nat)) → Progress → Prop where
  /-- The turn has come so far. -/
  | soFar {i : Nat} {page : Text} {s : Progress} : Turn team v i page s [] none s
  /-- There is no such script. -/
  | finished {i : Nat} {page : Text} {s : Progress} (h : (inlineScripts page)[i]? = none) :
      Turn team v i page s [] (some (.ok (page, 0))) s
  /-- The visit is aborted, and the turn with it. -/
  | aborted {i : Nat} {page : Text} {s s' : Progress} {e : Element} {cause : Abort}
      (h : (inlineScripts page)[i]? = some e)
      (hVisit : defineInElement team v e page s = (.error cause, s')) :
      Turn team v i page s [⟨i, page, e, page⟩] (some (.error cause)) s'
  /-- The script is visited, and the turn goes on with the page that is left. -/
  | visited {i n : Nat} {page left : Text} {s s₁ s₂ : Progress} {e : Element}
      {ws : List Visit} {outcome : Option (Except Abort (Text × Nat))}
      (h : (inlineScripts page)[i]? = some e)
      (hVisit : defineInElement team v e page s = (.ok (left, n), s₁))
      (hRest : Turn team v (i + 1) left s₁ ws outcome s₂) :
      Turn team v i page s (⟨i, page, e, left⟩ :: ws)
        (outcome.map (behindFixes n)) s₂

-- ---------------------------------------------------------------------------
-- What comes of a turn
-- ---------------------------------------------------------------------------

section Outcome

variable {i n : Nat} {e : Element} {left : Text} {cause : Abort} {s₁ : Progress}

theorem nextVisit_of_end (h : (inlineScripts page)[i]? = none) (k : Nat) :
    nextVisit team v ⟨i, page, k, s⟩ = .inr (.ok (page, k), s) := by
  rw [nextVisit, h]

theorem nextVisit_of_error (h : (inlineScripts page)[i]? = some e)
    (hVisit : defineInElement team v e page s = (.error cause, s₁)) (k : Nat) :
    nextVisit team v ⟨i, page, k, s⟩ = .inr (.error cause, s₁) := by
  rw [nextVisit, h]
  dsimp only
  rw [hVisit]

theorem nextVisit_of_ok (h : (inlineScripts page)[i]? = some e)
    (hVisit : defineInElement team v e page s = (.ok (left, n), s₁)) (k : Nat) :
    nextVisit team v ⟨i, page, k, s⟩ = .inl ⟨i + 1, left, k + n, s₁⟩ := by
  rw [nextVisit, h]
  dsimp only
  rw [hVisit]

/-- There is no script to visit, or the visit is aborted, or it leaves a page. -/
theorem visit_cases (team : Collaborators) (v : Page.UndefinedVariable) (i : Nat) (page : Text)
    (s : Progress) :
    (inlineScripts page)[i]? = none ∨ ∃ e, (inlineScripts page)[i]? = some e ∧
      ((∃ cause s₁, defineInElement team v e page s = (.error cause, s₁)) ∨
        ∃ left n s₁, defineInElement team v e page s = (.ok (left, n), s₁)) := by
  cases (inlineScripts page)[i]? with
  | none => exact .inl rfl
  | some e =>
    refine .inr ⟨e, rfl, ?_⟩
    cases hVisit : defineInElement team v e page s with
    | mk outcome s₁ =>
      cases outcome with
      | error cause => exact .inl ⟨cause, s₁, rfl⟩
      | ok change => exact .inr ⟨change.1, change.2, s₁, rfl⟩

/-- The fixes that were made before are only counted. -/
theorem nextVisit_behind (k : Nat) (t : TurnState) :
    nextVisit team v { t with fixes := k + t.fixes } =
      (nextVisit team v t).map (fun t => { t with fixes := k + t.fixes })
        (Prod.map (behindFixes k) id) := by
  obtain ⟨i, page, m, s⟩ := t
  rcases visit_cases team v i page s with
    h | ⟨e, h, ⟨cause, s₁, hVisit⟩ | ⟨left, n, s₁, hVisit⟩⟩
  · rw [nextVisit_of_end h, nextVisit_of_end h]
    rfl
  · rw [nextVisit_of_error h hVisit, nextVisit_of_error h hVisit]
    rfl
  · rw [nextVisit_of_ok h hVisit, nextVisit_of_ok h hVisit, Nat.add_assoc]
    rfl

theorem defineFrom_of_end (h : (inlineScripts page)[i]? = none) :
    defineFrom team v i page s = some (.ok (page, 0), s) :=
  Loop.run_of_inr (nextVisit_of_end h 0)

theorem defineFrom_of_error (h : (inlineScripts page)[i]? = some e)
    (hVisit : defineInElement team v e page s = (.error cause, s₁)) :
    defineFrom team v i page s = some (.error cause, s₁) :=
  Loop.run_of_inr (nextVisit_of_error h hVisit 0)

theorem defineFrom_of_ok (h : (inlineScripts page)[i]? = some e)
    (hVisit : defineInElement team v e page s = (.ok (left, n), s₁)) :
    defineFrom team v i page s =
      (defineFrom team v (i + 1) left s₁).map (Prod.map (behindFixes n) id) :=
  calc Loop.run (nextVisit team v) ⟨i, page, 0, s⟩
      = Loop.run (nextVisit team v) ⟨i + 1, left, 0 + n, s₁⟩ :=
        Loop.run_of_inl (nextVisit_of_ok h hVisit 0)
    _ = Loop.run (nextVisit team v) ⟨i + 1, left, n + 0, s₁⟩ := by rw [Nat.add_comm 0 n]
    _ = (Loop.run (nextVisit team v) ⟨i + 1, left, 0, s₁⟩).map (Prod.map (behindFixes n) id) :=
        Loop.run_map (nextVisit_behind n) ⟨i + 1, left, 0, s₁⟩

/-- A turn has the outcome that its rules lead to. -/
theorem Turn.defineFrom_eq {ws : List Visit} {out : Option (Except Abort (Text × Nat))}
    {outcome : Except Abort (Text × Nat)} (h : Turn team v i page s ws out s')
    (hOver : out = some outcome) : defineFrom team v i page s = some (outcome, s') := by
  induction h generalizing outcome with
  | soFar => exact absurd hOver (by simp)
  | finished h =>
    rw [defineFrom_of_end h, ← Option.some.inj hOver]
  | aborted h hVisit =>
    rw [defineFrom_of_error h hVisit, ← Option.some.inj hOver]
  | visited h hVisit hRest ih =>
    obtain ⟨rest, hRestOver, rfl⟩ := Option.map_eq_some_iff.mp hOver
    rw [defineFrom_of_ok h hVisit, ih hRestOver]
    rfl

/-- Whatever the visits come to, they have gone by the rules. -/
theorem exists_turn_of_yields {t : TurnState} {out : Except Abort (Text × Nat) × Progress}
    (h : Loop.Yields (nextVisit team v) t out) :
    ∃ ws outcome, Turn team v t.number t.page t.progress ws (some outcome) out.2 ∧
      out.1 = behindFixes t.fixes outcome := by
  induction h with
  | @now t out h =>
    obtain ⟨i, page, k, s⟩ := t
    rcases visit_cases team v i page s with
      hEnd | ⟨e, hScript, ⟨cause, s₁, hVisit⟩ | ⟨left, n, s₁, hVisit⟩⟩
    · rw [nextVisit_of_end hEnd] at h
      obtain rfl := Sum.inr.inj h
      exact ⟨[], _, .finished hEnd, rfl⟩
    · rw [nextVisit_of_error hScript hVisit] at h
      obtain rfl := Sum.inr.inj h
      exact ⟨_, _, .aborted hScript hVisit, rfl⟩
    · rw [nextVisit_of_ok hScript hVisit] at h
      exact absurd h (by simp)
  | @later t t' out h _ ih =>
    obtain ⟨i, page, k, s⟩ := t
    rcases visit_cases team v i page s with
      hEnd | ⟨e, hScript, ⟨cause, s₁, hVisit⟩ | ⟨left, n, s₁, hVisit⟩⟩
    · rw [nextVisit_of_end hEnd] at h
      exact absurd h (by simp)
    · rw [nextVisit_of_error hScript hVisit] at h
      exact absurd h (by simp)
    · rw [nextVisit_of_ok hScript hVisit] at h
      obtain rfl := Sum.inl.inj h
      obtain ⟨ws, outcome, hTurn, hOut⟩ := ih
      exact ⟨_, _, .visited hScript hVisit hTurn, hOut.trans (behindFixes_behindFixes k n _).symm⟩

/-- A turn with an outcome has gone by the rules. -/
theorem exists_turn {out : Except Abort (Text × Nat) × Progress}
    (h : defineFrom team v i page s = some out) :
    ∃ ws, Turn team v i page s ws (some out.1) out.2 := by
  obtain ⟨ws, outcome, hTurn, hOut⟩ := exists_turn_of_yields (Loop.run_eq_some_iff.mp h)
  rw [hOut, behindFixes_zero]
  exact ⟨ws, hTurn⟩

theorem defineFrom_eq_some_iff {outcome : Except Abort (Text × Nat)} :
    defineFrom team v i page s = some (outcome, s') ↔
      ∃ ws, Turn team v i page s ws (some outcome) s' :=
  ⟨fun h => exists_turn h, fun ⟨_, hTurn⟩ => hTurn.defineFrom_eq rfl⟩

/-- A turn can be followed for any number of visits, unless it is over before. -/
theorem exists_course (team : Collaborators) (v : Page.UndefinedVariable) (n : Nat) :
    ∀ (i : Nat) (page : Text) (s : Progress),
      (∃ ws outcome s', ws.length ≤ n ∧ Turn team v i page s ws (some outcome) s') ∨
        ∃ ws s', ws.length = n ∧ Turn team v i page s ws none s' := by
  induction n with
  | zero => exact fun i page s => .inr ⟨[], s, rfl, .soFar⟩
  | succ n ih =>
    intro i page s
    rcases visit_cases team v i page s with
      hEnd | ⟨e, hScript, ⟨cause, s₁, hVisit⟩ | ⟨left, m, s₁, hVisit⟩⟩
    · exact .inl ⟨[], _, s, Nat.zero_le _, .finished hEnd⟩
    · exact .inl ⟨[⟨i, page, e, page⟩], _, s₁, Nat.succ_le_succ (Nat.zero_le n),
        .aborted hScript hVisit⟩
    · rcases ih (i + 1) left s₁ with
        ⟨ws, outcome, s₂, hLength, hRest⟩ | ⟨ws, s₂, hLength, hRest⟩
      · exact .inl ⟨⟨i, page, e, left⟩ :: ws, _, s₂, Nat.succ_le_succ hLength,
          .visited hScript hVisit hRest⟩
      · exact .inr ⟨⟨i, page, e, left⟩ :: ws, s₂, congrArg Nat.succ hLength,
          .visited hScript hVisit hRest⟩

/-- A turn that is over is not followed beyond its end. -/
theorem Turn.isPrefix_of_over {ws ws' : List Visit} {out : Option (Except Abort (Text × Nat))}
    {outcome : Except Abort (Text × Nat)} {s'' : Progress}
    (h : Turn team v i page s ws out s') (hOver : Turn team v i page s ws' (some outcome) s'') :
    ws <+: ws' := by
  obtain ⟨o, ho⟩ : ∃ o, o = some outcome := ⟨_, rfl⟩
  rw [← ho] at hOver
  induction h generalizing ws' outcome o with
  | soFar => exact List.nil_prefix
  | finished h => exact List.nil_prefix
  | aborted h hVisit =>
    cases hOver with
    | soFar => exact absurd ho (by simp)
    | finished h' => exact absurd (h.symm.trans h') (by simp)
    | aborted h' hVisit' =>
      obtain rfl := Option.some.inj (h.symm.trans h')
      exact List.prefix_rfl
    | visited h' hVisit' =>
      obtain rfl := Option.some.inj (h.symm.trans h')
      exact absurd (hVisit.symm.trans hVisit') (by simp)
  | visited h hVisit hRest ih =>
    cases hOver with
    | soFar => exact absurd ho (by simp)
    | finished h' => exact absurd (h.symm.trans h') (by simp)
    | aborted h' hVisit' =>
      obtain rfl := Option.some.inj (h.symm.trans h')
      exact absurd (hVisit.symm.trans hVisit') (by simp)
    | visited h' hVisit' hRest' =>
      obtain rfl := Option.some.inj (h.symm.trans h')
      obtain ⟨hChange, rfl⟩ := Prod.mk.inj (hVisit.symm.trans hVisit')
      obtain ⟨rfl, rfl⟩ := Prod.mk.inj (Except.ok.inj hChange)
      obtain ⟨rest, hRestOver, -⟩ := Option.map_eq_some_iff.mp ho
      exact List.cons_prefix_cons.mpr ⟨rfl, ih _ hRest' hRestOver⟩

/-- A turn never ends if and only if it can be followed for any number of visits. -/
theorem defineFrom_eq_none_iff :
    defineFrom team v i page s = none ↔
      ∀ n, ∃ ws s', ws.length = n ∧ Turn team v i page s ws none s' := by
  constructor
  · intro hEndless n
    rcases exists_course team v n i page s with ⟨ws, outcome, s', -, hTurn⟩ | hCourse
    · rw [hTurn.defineFrom_eq rfl] at hEndless
      exact absurd hEndless (by simp)
    · exact hCourse
  · intro hCourses
    cases hOver : defineFrom team v i page s with
    | none => rfl
    | some out =>
      obtain ⟨ws', hTurn'⟩ := exists_turn hOver
      obtain ⟨ws, s', hLength, hTurn⟩ := hCourses (ws'.length + 1)
      have hShort := (hTurn.isPrefix_of_over hTurn').length_le
      omega

end Outcome

-- ---------------------------------------------------------------------------
-- The visits of a turn
-- ---------------------------------------------------------------------------

namespace Turn

variable {i : Nat} {ws : List Visit} {outcome : Option (Except Abort (Text × Nat))}

/-- One question for each visit, at most. -/
theorem asked (h : Turn team v i page s ws outcome s') :
    ∃ asked, s'.questions = s.questions ++ asked ∧
      asked.Sublist (ws.map fun w => questionOn v w.script.content) := by
  induction h with
  | soFar => exact ⟨[], (List.append_nil _).symm, List.nil_sublist _⟩
  | finished h => exact ⟨[], (List.append_nil _).symm, List.nil_sublist _⟩
  | @aborted i page s s' e cause h hVisit =>
    obtain ⟨asked, hAsked, hSub⟩ := defineInElement_asksAtMost team v e page s
    rw [hVisit] at hAsked
    exact ⟨asked, hAsked, hSub⟩
  | @visited i n page left s s₁ s₂ e ws outcome h hVisit hRest ih =>
    obtain ⟨asked, hAsked, hSub⟩ := defineInElement_asksAtMost team v e page s
    rw [hVisit] at hAsked
    obtain ⟨later, hLater, hSub'⟩ := ih
    refine ⟨asked ++ later, ?_, hSub.append hSub'⟩
    rw [hLater, hAsked, List.append_assoc]

/-- While every visit keeps the rest, the scripts are visited as they stood. -/
theorem isPrefix_of_keepsRest (h : Turn team v i page s ws outcome s')
    (hKeeps : ∀ w ∈ ws, w.KeepsRest) :
    ws.map Visit.standing <+: (standingScripts page).drop i := by
  induction h with
  | soFar => exact List.nil_prefix
  | finished h => exact List.nil_prefix
  | aborted h hVisit =>
    rw [Document.drop_standingScripts_of_script h]
    exact List.cons_prefix_cons.mpr ⟨rfl, List.nil_prefix⟩
  | visited h hVisit hRest ih =>
    obtain ⟨hFirst, hLater⟩ := List.forall_mem_cons.mp hKeeps
    rw [Document.drop_standingScripts_of_script h]
    refine List.cons_prefix_cons.mpr ⟨rfl, ?_⟩
    rw [← hFirst]
    exact ih hLater

theorem head?_standing (h : Turn team v i page s ws outcome s') (hOver : outcome ≠ none) :
    (ws.map Visit.standing).head? = ((standingScripts page).drop i).head? := by
  cases h with
  | soFar => exact absurd rfl hOver
  | finished h => rw [Document.drop_standingScripts_of_end h, List.map_nil]
  | aborted h hVisit =>
    rw [Document.drop_standingScripts_of_script h]
    rfl
  | visited h hVisit hRest =>
    rw [Document.drop_standingScripts_of_script h]
    rfl

/-- The scripts that were ahead are visited exactly when every visit keeps the rest. -/
theorem eq_drop_iff_keepsRest (h : Turn team v i page s ws outcome s') {change : Text × Nat}
    (hOk : outcome = some (.ok change)) :
    ws.map Visit.standing = (standingScripts page).drop i ↔ ∀ w ∈ ws, w.KeepsRest := by
  induction h generalizing change with
  | soFar => exact absurd hOk (by simp)
  | finished h => simp [Document.drop_standingScripts_of_end h]
  | aborted h hVisit => exact absurd hOk (by simp)
  | @visited i n page left s s₁ s₂ e ws outcome h hVisit hRest ih =>
    obtain ⟨change', hOk'⟩ : ∃ change', outcome = some (.ok change') := by
      obtain ⟨rest, hRestOver, hRestOk⟩ := Option.map_eq_some_iff.mp hOk
      obtain ⟨change', rfl, -⟩ := behindFixes_eq_ok_iff.mp hRestOk
      exact ⟨change', hRestOver⟩
    have hIff := ih hOk'
    rw [Document.drop_standingScripts_of_script h, List.map_cons, List.forall_mem_cons]
    constructor
    · intro hAll
      have hTail : ws.map Visit.standing = (standingScripts page).drop (i + 1) :=
        (List.cons.inj hAll).2
      -- the page that is left has the same script next, and so the same behind it
      have hKeeps : (standingScripts left).drop (i + 1) = (standingScripts page).drop (i + 1) := by
        refine Document.drop_eq_of_head? ?_
        rw [← hRest.head?_standing (by simp [hOk']), hTail]
      exact ⟨hKeeps, hIff.mp (hTail.trans hKeeps.symm)⟩
    · rintro ⟨hKeeps, hLater⟩
      rw [hIff.mpr hLater]
      exact congrArg _ hKeeps

/-- A visit is to a script of its page, and leaves the page as it is, or with what becomes
of the script. -/
theorem cases_of_mem (h : Turn team v i page s ws outcome s') :
    ∀ w ∈ ws, (inlineScripts w.page)[w.number]? = some w.script ∧
      (w.left = w.page ∨ ∃ new, Defined team v w.script.content new ∧
        w.left = w.script.replaceContent new w.page) := by
  induction h with
  | soFar => exact fun w hw => absurd hw List.not_mem_nil
  | finished h => exact fun w hw => absurd hw List.not_mem_nil
  | aborted h hVisit =>
    intro w hw
    rw [List.mem_singleton.mp hw]
    exact ⟨h, .inl rfl⟩
  | visited h hVisit hRest ih =>
    exact List.forall_mem_cons.mpr ⟨⟨h, defineInElement_left hVisit⟩, ih⟩

/-- Only an answer can change which scripts are ahead, and it does so with a content that is
blank or holds a closing tag. -/
theorem isTorn_of_not_keepsRest (hName : '<' ∉ v.name)
    (h : Turn team v i page s ws outcome s') :
    ∀ w ∈ ws, ¬ w.KeepsRest → w.IsTorn team v := by
  intro w hw hNot
  obtain ⟨hScript, hSame | ⟨new, hDefined, hNew⟩⟩ := h.cases_of_mem w hw
  · exact absurd (w.keepsRest_of_same hSame) hNot
  · have hTears : Text.allBlank new = true ∨ ¬ IsContent .script new := by
      by_contra hNeither
      rw [not_or, not_not, Bool.not_eq_true] at hNeither
      exact hNot (w.keepsRest_of_isContent hScript hNew hNeither.1 hNeither.2)
    cases hDefined with
    | declared hPlain =>
      have hOld : IsContent .script w.script.content :=
        Document.isContent_of_mem_elements (List.mem_filter.mp (List.mem_of_getElem? hScript)).1
      rcases hTears with hBlank | hClosing
      · rw [allBlank_declareBefore] at hBlank
        exact absurd hBlank (by decide)
      · exact absurd (isContent_declareBefore hName hPlain hOld) hClosing
    | answered hAnswered => exact ⟨new, hAnswered, hNew, hTears⟩

/-- A script that is made blank is counted no more, and the next one is passed over. -/
theorem skips_of_allBlank (h : Turn team v i page s ws outcome s') {w : Visit} (hw : w ∈ ws)
    {new : Text} (hNew : w.left = w.script.replaceContent new w.page)
    (hBlank : Text.allBlank new = true) :
    (standingScripts w.left).drop (w.number + 1) =
      (standingScripts w.page).drop (w.number + 2) := by
  have hAhead := Document.drop_standingScripts_replaceContent (h.cases_of_mem w hw).1
    (Document.isContent_of_allBlank hBlank)
  rw [if_pos hBlank] at hAhead
  rw [hNew, ← List.drop_drop, hAhead, List.drop_drop]

/-- Unless an answer gives a script a content that holds a closing tag, no visit leaves more
scripts behind it than there were. -/
theorem ahead_le_of_not_opens (hName : '<' ∉ v.name) (h : Turn team v i page s ws outcome s')
    {w : Visit} (hw : w ∈ ws) (hNot : ¬ w.Opens team v) :
    ((standingScripts w.left).drop (w.number + 1)).length ≤
      ((standingScripts w.page).drop (w.number + 1)).length := by
  by_cases hKeeps : w.KeepsRest
  · rw [hKeeps]
  · obtain ⟨new, hAnswered, hNew, hBlank | hClosing⟩ := h.isTorn_of_not_keepsRest hName w hw hKeeps
    · rw [h.skips_of_allBlank hw hNew hBlank]
      simp only [List.length_drop]
      omega
    · exact absurd ⟨new, hAnswered, hNew, hClosing⟩ hNot

/-- A turn makes no more visits than there are scripts ahead, unless an answer gives a script
a content that holds a closing tag. -/
theorem length_le_of_not_opens (hName : '<' ∉ v.name) (h : Turn team v i page s ws outcome s')
    (hNot : ∀ w ∈ ws, ¬ w.Opens team v) :
    ws.length ≤ ((standingScripts page).drop i).length := by
  induction h with
  | soFar => exact Nat.zero_le _
  | finished h => exact Nat.zero_le _
  | aborted h hVisit =>
    rw [Document.drop_standingScripts_of_script h]
    exact Nat.succ_le_succ (Nat.zero_le _)
  | @visited i n page left s s₁ s₂ e ws outcome h hVisit hRest ih =>
    obtain ⟨hFirst, hLater⟩ := List.forall_mem_cons.mp hNot
    have hAhead := (Turn.visited h hVisit hRest).ahead_le_of_not_opens hName
      (List.mem_cons_self ..) hFirst
    have hFew := ih hLater
    rw [Document.drop_standingScripts_of_script h, List.length_cons, List.length_cons]
    exact Nat.succ_le_succ (hFew.trans hAhead)

end Turn

/-- What is known of the turn of a variable, from its visits, what has come of it, and the
progress behind it. -/
structure Account (team : Collaborators) (v : Page.UndefinedVariable) (page : Text) (s : Progress)
    (ws : List Visit) (outcome : Option (Except Abort (Text × Nat))) (s' : Progress) : Prop where
  turn : Turn team v 0 page s ws outcome s'
  /-- At every visit the oracle is asked once at most. -/
  asked : ∃ asked, s'.questions = s.questions ++ asked ∧
    asked.Sublist (ws.map fun w => questionOn v w.script.content)
  /-- While every visit keeps the rest, the scripts are visited as they stood when the turn
  began, one after the other. -/
  ahead : (∀ w ∈ ws, w.KeepsRest) → ws.map Visit.standing <+: standingScripts page
  /-- A turn that has come to its end visits exactly these scripts if every visit keeps the
  rest, and only then. -/
  complete : ∀ change, outcome = some (.ok change) →
    (ws.map Visit.standing = standingScripts page ↔ ∀ w ∈ ws, w.KeepsRest)
  /-- Only answers do not keep the rest. -/
  torn : ∀ w ∈ ws, ¬ w.KeepsRest → w.IsTorn team v
  /-- Behind a script that is made blank, the next one is passed over. -/
  skips : ∀ w ∈ ws, ∀ new, w.left = w.script.replaceContent new w.page →
    Text.allBlank new = true →
      (standingScripts w.left).drop (w.number + 1) = (standingScripts w.page).drop (w.number + 2)
  /-- No more visits are made than there were scripts, unless an answer puts a closing tag
  into one of them. -/
  few : (∀ w ∈ ws, ¬ w.Opens team v) → ws.length ≤ (standingScripts page).length

theorem Turn.account (hName : '<' ∉ v.name) {ws : List Visit}
    {outcome : Option (Except Abort (Text × Nat))} (h : Turn team v 0 page s ws outcome s') :
    Account team v page s ws outcome s' where
  turn := h
  asked := h.asked
  ahead := h.isPrefix_of_keepsRest
  complete _ hOk := h.eq_drop_iff_keepsRest hOk
  torn := h.isTorn_of_not_keepsRest hName
  skips _ hw _ hNew hBlank := h.skips_of_allBlank hw hNew hBlank
  few := h.length_le_of_not_opens hName

theorem mem_of_mem_firstOfEachName {faults : List Page.UndefinedVariable}
    (h : v ∈ firstOfEachName faults) : v ∈ faults := by
  induction faults with
  | nil => exact h
  | cons w faults ih =>
    rw [firstOfEachName] at h
    rcases List.mem_cons.mp h with rfl | h
    · exact List.mem_cons_self ..
    · exact List.mem_cons_of_mem _ (ih (List.mem_filter.mp h).1)

/-- **Which scripts a turn visits**: those that stood in the page when the turn began, each
once and in order, as long as no answer gives a script a content that is blank or holds a
closing tag. Behind such a content the numbers of the scripts have shifted, and the turn
goes on by number all the same. It may go on forever: then it can be followed for any number
of visits, and some answer has put a closing tag into a script. -/
theorem defineFrom_account {events : List Page.Event} {faults : List Page.UndefinedVariable}
    (hEvents : Page.undefinedVariables events = .ok faults) (hName : v ∈ firstOfEachName faults)
    (team : Collaborators) (page : Text) (s : Progress) :
    (∃ ws outcome s', defineFrom team v 0 page s = some (outcome, s') ∧
      Account team v page s ws (some outcome) s') ∨
    (defineFrom team v 0 page s = none ∧ ∀ n, ∃ ws s', ws.length = n ∧
      Account team v page s ws none s' ∧ (page.length < n → ∃ w ∈ ws, w.Opens team v)) := by
  have hPlain : '<' ∉ v.name := Page.lt_not_mem_name hEvents (mem_of_mem_firstOfEachName hName)
  cases hTurn : defineFrom team v 0 page s with
  | some out =>
    obtain ⟨ws, hRules⟩ := exists_turn hTurn
    exact .inl ⟨ws, out.1, out.2, rfl, hRules.account hPlain⟩
  | none =>
    refine .inr ⟨rfl, fun n => ?_⟩
    obtain ⟨ws, s', hLength, hRules⟩ := defineFrom_eq_none_iff.mp hTurn n
    have hAccount := hRules.account hPlain
    refine ⟨ws, s', hLength, hAccount, fun hMany => ?_⟩
    by_contra hNone
    have hFew := hAccount.few fun w hw hOpens => hNone ⟨w, hw, hOpens⟩
    have hScripts := Document.length_standingScripts_le page
    omega

/-- Two scripts that mention the same variable. -/
def twoMentions : Text := "<script>x</script>\n<script>x</script>".toList

/-- The page reports that `x` is not defined. -/
def missingX : Page.UndefinedVariable :=
  ⟨"x".toList, none, "ReferenceError: x is not defined".toList⟩

def missingXEvent : Page.Event := ⟨.pageError, missingX.message, none, none⟩

/-- An oracle that makes the first line of every script blank. -/
def blanking : Collaborators :=
  ⟨some fun _ _ =>
    .answer "[\x7b\"lineNumber\": 1, \"original\": \"x\", \"replacement\": \"\"\x7d]".toList, none⟩

/-- What is left of the two scripts. -/
def oneMention : Text := "<script></script>\n<script>x</script>".toList

theorem defineFrom_twoMentions : ∃ s', defineFrom blanking missingX 0 twoMentions .initial =
    some (.ok (oneMention, 1), s') := by
  have hFirst : (inlineScripts twoMentions)[0]? =
      some ⟨.script, "<script>".toList, "x".toList, "</script>".toList, 0, 1⟩ := by
    decide +kernel
  have hLeft : (defineInElement blanking missingX
      ⟨.script, "<script>".toList, "x".toList, "</script>".toList, 0, 1⟩ twoMentions .initial).1 =
        .ok (oneMention, 1) := by
    decide +kernel
  -- one script is left, so there is no second one
  have hEnd : (inlineScripts oneMention)[1]? = none := by decide +kernel
  generalize hVisit : defineInElement blanking missingX
    ⟨.script, "<script>".toList, "x".toList, "</script>".toList, 0, 1⟩ twoMentions .initial =
      visit at hLeft
  refine ⟨visit.2, ?_⟩
  rw [defineFrom_of_ok hFirst (hVisit.trans (Prod.ext hLeft rfl)), defineFrom_of_end hEnd]
  rfl

/-- The first of the two scripts is made blank, and the second stays as it was. -/
theorem defineFrom_account_twoMentions :
    Page.undefinedVariables [missingXEvent] = .ok [missingX] ∧
      missingX ∈ firstOfEachName [missingX] ∧
      ∃ ws s', defineFrom blanking missingX 0 twoMentions .initial =
          some (.ok (oneMention, 1), s') ∧
        Account blanking missingX twoMentions .initial ws
          (some (.ok (oneMention, 1))) s' := by
  have hEvents : Page.undefinedVariables [missingXEvent] = .ok [missingX] := by decide +kernel
  have hName : missingX ∈ firstOfEachName [missingX] := by decide
  obtain ⟨s', hPage⟩ := defineFrom_twoMentions
  rcases defineFrom_account hEvents hName blanking twoMentions .initial with
    ⟨ws, outcome, s'', hRun, hAccount⟩ | ⟨hEndless, -⟩
  · obtain ⟨rfl, rfl⟩ := Prod.mk.inj (Option.some.inj (hPage.symm.trans hRun))
    exact ⟨hEvents, hName, ws, s', hRun, hAccount⟩
  · exact absurd (hPage.symm.trans hEndless) (by simp)

end Pass

end SketchRepair
