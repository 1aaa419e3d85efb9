import Mathlib.Algebra.Ring.Nat
import SketchRepair.Proofs.Document.Revision
import SketchRepair.Proofs.Repair.Run
import SketchRepair.Proofs.Script.ParenRepair
import SketchRepair.Repair.Pass.Parenthesis

/-!
# SketchRepair — matching parentheses without help

The pass asks for patches of every script with unmatched parentheses. When none of
the replies is of use, it mends all of these scripts mechanically. The page then has
its elements where they were, every script is balanced or shader code, and there is
nothing left to do for the same pass. An answer that cannot be read is of no use either,
but it aborts the pass, and nothing is mended.

* `matchIn_of_useless`, `matchAll_of_unhelped` — what is done to one script, and to
  all of them, by induction along the questions that are sent;
* `matchIn_of_misread`, `matchAll_of_misread` — the same up to an answer that cannot be read;
* `dissect_mendedPage`, `issueCount_mendedPage` — the page that is yielded;
* `run_of_no_issues` — a page with nothing to do;
* `parenthesis_balances` — the pass on a page, and again on the page it yields.
-/

namespace SketchRepair

namespace Pass

open Document (Element Piece updatesOf revised)
open Prompt (ParenContext)
open Script (Balanced ParenIssue parenIssues mendParens isShader)

/-- A reply that no patch of the script comes from: there is no answer, or no patch that
is read from it is applied. A failure of the oracle is something else. -/
def IsUseless (script : Text) : Reply → Prop
  | .answer text => ∀ patches, ParenContext.readAnswer text = .ok patches →
      (Patch.applyLinePatches similarityThreshold script patches (parenIssues script)).applied = []
  | .unavailable _ => True
  | .failure _ => False

/-- An answer that cannot be read, for this cause. -/
def IsMisread (cause : Abort) : Reply → Prop
  | .answer text => ParenContext.readAnswer text = .error cause
  | .unavailable _ => False
  | .failure _ => False

/-- Those elements that have unmatched parentheses. -/
def faulty (es : List Element) : List Element :=
  es.filter fun e => !(parenIssues e.content).isEmpty

/-- No patch comes from the oracle when it is asked about these scripts one after the
other, from the call number `n` on. -/
def Unhelped (team : Collaborators) (n : Nat) (es : List Element) : Prop :=
  ∀ oracle, team.oracle = some oracle → ∀ k e, es[k]? = some e →
    IsUseless e.content (oracle (n + k) (ParenContext.request ⟨e.content, parenIssues e.content⟩))

/-- The oracle is asked about these scripts in the same way, and its answer about the
script number `k` is one that cannot be read. -/
def Misreads (team : Collaborators) (n : Nat) (es : List Element) (k : Nat) (cause : Abort) : Prop :=
  ∃ oracle e, team.oracle = some oracle ∧ es[k]? = some e ∧
    IsMisread cause (oracle (n + k) (ParenContext.request ⟨e.content, parenIssues e.content⟩))

/-- What becomes of a script that is mended mechanically. -/
def mendedContent (script : Text) : Option Text :=
  if (parenIssues script).isEmpty then none else some (mendParens script (parenIssues script))

/-- The number of unmatched parentheses of a list of elements. -/
def issueCount (es : List Element) : Nat := (es.map fun e => (parenIssues e.content).length).sum

-- ---------------------------------------------------------------------------
-- The scripts one after the other
-- ---------------------------------------------------------------------------

variable {team : Collaborators} {s : Progress} {script : Text}

theorem logFailed_apply (failed : List (Patch.LinePatch × Patch.Rejection)) :
    ∀ s : Progress, ∃ s', logFailed failed s = (.ok (), s') ∧ s'.questions = s.questions := by
  induction failed with
  | nil =>
    intro s
    exact ⟨s, rfl, rfl⟩
  | cons entry rest ih =>
    intro s
    obtain ⟨p, why⟩ := entry
    obtain ⟨s', hRest, hQuestions⟩ := ih (s.noting
      (.patchSkipped parenthesisName (p.describe ++ ": ".toList ++ why.message)))
    refine ⟨s', ?_, hQuestions⟩
    rw [logFailed, Run.log_bind_apply]
    exact hRest

/-- A script is mended mechanically when the reply is useless and can be read; one question
has been sent if there is an oracle. -/
theorem matchIn_of_useless (h : ∀ oracle, team.oracle = some oracle → IsUseless script
      (oracle s.questions.length (ParenContext.request ⟨script, parenIssues script⟩)))
    (hRead : ∀ oracle, team.oracle = some oracle → ∀ cause, ¬ IsMisread cause
      (oracle s.questions.length (ParenContext.request ⟨script, parenIssues script⟩))) :
    ∃ s', matchIn team script (parenIssues script) s =
        (.ok (mendParens script (parenIssues script), (parenIssues script).length), s') ∧
      ∀ oracle, team.oracle = some oracle → s'.questions.length = s.questions.length + 1 := by
  unfold matchIn
  cases hOracle : team.oracle with
  | none =>
    refine ⟨_, Run.bind_of_ok _ (Run.ask_of_none ..), ?_⟩
    intro oracle hSome
    exact absurd hSome (by simp)
  | some oracle =>
    have hReply := h oracle hOracle
    have hReadable := hRead oracle hOracle
    generalize hRequest : ParenContext.request ⟨script, parenIssues script⟩ = request
      at hReply hReadable ⊢
    cases hAsked : oracle s.questions.length request with
    | failure text =>
      rw [hAsked] at hReply
      exact hReply.elim
    | unavailable reason =>
      refine ⟨_, Run.bind_of_ok _ (Run.ask_of_unavailable hAsked), ?_⟩
      intro _ _
      simp
    | answer text =>
      rw [hAsked] at hReply hReadable
      cases hPatches : ParenContext.readAnswer text with
      | error cause => exact absurd hPatches (hReadable cause)
      | ok patches =>
        have hApplied := hReply patches hPatches
        generalize hOutcome :
          Patch.applyLinePatches similarityThreshold script patches (parenIssues script) = outcome
          at hApplied
        obtain ⟨s', hLogged, hQuestions⟩ := logFailed_apply outcome.failed
          ((s.sending parenthesisName request).noting (.answered parenthesisName (some text) none))
        have hSuccess : outcome.isSuccess = false := by
          rw [Patch.LineOutcome.isSuccess, hApplied]
          rfl
        refine ⟨s', (Run.bind_of_ok _ (Run.ask_of_answer hAsked)).trans ?_, ?_⟩
        · dsimp only
          rw [hPatches, Run.bind_of_ok _ (Run.ofExcept_ok ..), hOutcome, Run.bind_of_ok _ hLogged,
            hSuccess]
          rfl
        · intro _ _
          rw [hQuestions]
          simp

theorem matchIn_of_misread {oracle : Oracle} {cause : Abort} (hOracle : team.oracle = some oracle)
    (h : IsMisread cause
      (oracle s.questions.length (ParenContext.request ⟨script, parenIssues script⟩))) :
    ∃ s', matchIn team script (parenIssues script) s = (.error cause, s') := by
  unfold matchIn
  rw [hOracle]
  generalize ParenContext.request ⟨script, parenIssues script⟩ = request at h ⊢
  cases hAsked : oracle s.questions.length request with
  | answer text =>
    rw [hAsked] at h
    have hCause : ParenContext.readAnswer text = .error cause := h
    refine ⟨(s.sending parenthesisName request).noting (.answered parenthesisName (some text) none),
      (Run.bind_of_ok _ (Run.ask_of_answer hAsked)).trans ?_⟩
    dsimp only
    rw [hCause]
    exact Run.bind_of_error _ (Run.ofExcept_error ..)
  | unavailable reason =>
    rw [hAsked] at h
    exact h.elim
  | failure text =>
    rw [hAsked] at h
    exact h.elim

theorem Unhelped.head {n : Nat} {e : Element} {es : List Element} (h : Unhelped team n (e :: es)) :
    ∀ oracle, team.oracle = some oracle → IsUseless e.content
      (oracle n (ParenContext.request ⟨e.content, parenIssues e.content⟩)) := by
  intro oracle hOracle
  exact h oracle hOracle 0 e rfl

theorem Unhelped.tail {n : Nat} {e : Element} {es : List Element} (h : Unhelped team n (e :: es)) :
    Unhelped team (n + 1) es := by
  intro oracle hOracle k e' hk
  have := h oracle hOracle (k + 1) e' (by simpa using hk)
  rwa [← Nat.add_assoc, Nat.add_right_comm] at this

/-- The first script is mended mechanically when its answer can be read. -/
theorem matchIn_of_unhelped {e : Element} {es : List Element}
    (h : Unhelped team s.questions.length (e :: es))
    (hRead : ∀ cause, ¬ Misreads team s.questions.length (e :: es) 0 cause) :
    ∃ s', matchIn team e.content (parenIssues e.content) s =
        (.ok (mendParens e.content (parenIssues e.content), (parenIssues e.content).length), s') ∧
      ∀ oracle, team.oracle = some oracle → s'.questions.length = s.questions.length + 1 :=
  matchIn_of_useless h.head fun oracle hOracle cause hMisread =>
    hRead cause ⟨oracle, e, hOracle, rfl, hMisread⟩

theorem Misreads.succ_iff {n k : Nat} {e : Element} {es : List Element} {cause : Abort} :
    Misreads team n (e :: es) (k + 1) cause ↔ Misreads team (n + 1) es k cause := by
  unfold Misreads
  rw [List.getElem?_cons_succ, Nat.add_assoc n 1 k, Nat.add_comm 1 k]

/-- A script without unmatched parentheses is passed over. -/
theorem matchAll_of_matched {e : Element} (h : (parenIssues e.content).isEmpty = true)
    (es : List Element) (s : Progress) :
    matchAll team (e :: es) s = matchAll team es s := by
  rw [matchAll]
  dsimp only
  rw [if_pos h]

/-- What is on record of a script that was mended mechanically. -/
def mendedRecord (e : Element) : Record :=
  .fixApplied parenthesisName ("script at line ".toList ++ Decimal.ofNat e.line)
    ("fixed ".toList ++ Decimal.ofNat (parenIssues e.content).length ++
      " parenthesis issue(s)".toList)
    [("issues".toList, .arr ((parenIssues e.content).map fun i => .str i.describe))]

/-- Behind a script that was mended mechanically, the others have their turns. -/
theorem matchAll_of_mended {e : Element} {s₁ : Progress}
    (h : (parenIssues e.content).isEmpty = false)
    (hMatched : matchIn team e.content (parenIssues e.content) s =
      (.ok (mendParens e.content (parenIssues e.content), (parenIssues e.content).length), s₁))
    (es : List Element) :
    matchAll team (e :: es) s = (do
      let (updates, m) ← matchAll team es
      return ((e, mendParens e.content (parenIssues e.content)) :: updates,
        (parenIssues e.content).length + m) : Run (List (Element × Text) × Nat))
          (s₁.noting (mendedRecord e)) := by
  have hCount : (parenIssues e.content).length ≠ 0 := by
    rw [Ne, List.length_eq_zero_iff]
    simpa using h
  rw [matchAll]
  dsimp only
  rw [if_neg (by simp [h]), Run.bind_of_ok _ hMatched]
  dsimp only
  rw [if_neg hCount, Run.log_bind_apply]
  rfl

theorem faulty_of_matched {e : Element} (h : (parenIssues e.content).isEmpty = true)
    (es : List Element) : faulty (e :: es) = faulty es := by
  simp [faulty, h]

theorem faulty_of_unmatched {e : Element} (h : (parenIssues e.content).isEmpty = false)
    (es : List Element) : faulty (e :: es) = e :: faulty es := by
  simp [faulty, h]

/-- All scripts are mended mechanically when no reply is of use and all can be read. -/
theorem matchAll_of_unhelped (es : List Element) :
    ∀ s : Progress, Unhelped team s.questions.length (faulty es) →
      (∀ k cause, ¬ Misreads team s.questions.length (faulty es) k cause) →
        ∃ s', matchAll team es s =
          (.ok (updatesOf (fun e => mendedContent e.content) es, issueCount es), s') := by
  induction es with
  | nil =>
    intro s _ _
    exact ⟨s, rfl⟩
  | cons e es ih =>
    intro s h hRead
    cases hIssues : (parenIssues e.content).isEmpty with
    | true =>
      have hNil : parenIssues e.content = [] := List.isEmpty_iff.mp hIssues
      rw [faulty_of_matched hIssues] at h hRead
      obtain ⟨s', hRest⟩ := ih s h hRead
      refine ⟨s', ?_⟩
      rw [matchAll_of_matched hIssues, hRest]
      simp [updatesOf, issueCount, mendedContent, hNil]
    | false =>
      rw [faulty_of_unmatched hIssues] at h hRead
      obtain ⟨s₁, hMatched, hSent⟩ := matchIn_of_unhelped h (hRead 0)
      have hLater : Unhelped team s₁.questions.length (faulty es) := by
        intro oracle hOracle
        rw [hSent oracle hOracle]
        exact h.tail oracle hOracle
      have hLaterRead : ∀ k cause, ¬ Misreads team s₁.questions.length (faulty es) k cause := by
        rintro k cause ⟨oracle, e', hOracle, hRest⟩
        rw [hSent oracle hOracle] at hRest
        exact hRead (k + 1) cause (Misreads.succ_iff.mpr ⟨oracle, e', hOracle, hRest⟩)
      obtain ⟨s₂, hRest⟩ := ih (s₁.noting (mendedRecord e)) hLater hLaterRead
      refine ⟨s₂, ?_⟩
      have hContent : mendedContent e.content =
          some (mendParens e.content (parenIssues e.content)) := by
        rw [mendedContent, if_neg (by simp [hIssues])]
      rw [matchAll_of_mended hIssues hMatched, Run.bind_of_ok _ hRest, updatesOf, updatesOf,
        List.filterMap_cons, hContent]
      rfl

/-- The first answer that cannot be read aborts the pass. -/
theorem matchAll_of_misread (es : List Element) :
    ∀ (s : Progress) (k : Nat) (cause : Abort), Unhelped team s.questions.length (faulty es) →
      Misreads team s.questions.length (faulty es) k cause →
        (∀ j < k, ∀ cause', ¬ Misreads team s.questions.length (faulty es) j cause') →
          ∃ s', matchAll team es s = (.error cause, s') := by
  induction es with
  | nil =>
    rintro s k cause - ⟨oracle, e, -, hk, -⟩ -
    exact absurd hk (by simp [faulty])
  | cons e es ih =>
    intro s k cause h hMisread hFirst
    cases hIssues : (parenIssues e.content).isEmpty with
    | true =>
      rw [faulty_of_matched hIssues] at h hMisread hFirst
      rw [matchAll_of_matched hIssues]
      exact ih s k cause h hMisread hFirst
    | false =>
      rw [faulty_of_unmatched hIssues] at h hMisread hFirst
      cases k with
      | zero =>
        obtain ⟨oracle, e', hOracle, hk, hAnswer⟩ := hMisread
        obtain rfl : e = e' := Option.some.inj hk
        obtain ⟨s', hAborted⟩ := matchIn_of_misread hOracle hAnswer
        refine ⟨s', ?_⟩
        rw [matchAll]
        dsimp only
        rw [if_neg (by simp [hIssues])]
        exact Run.bind_of_error _ hAborted
      | succ k =>
        obtain ⟨s₁, hMatched, hSent⟩ := matchIn_of_unhelped h (hFirst 0 k.succ_pos)
        obtain ⟨oracle, hOracle⟩ : ∃ oracle, team.oracle = some oracle :=
          ⟨hMisread.choose, hMisread.choose_spec.choose_spec.1⟩
        have hLength := hSent oracle hOracle
        have hLater := h.tail
        rw [Misreads.succ_iff] at hMisread
        rw [← hLength] at hLater hMisread
        obtain ⟨s₂, hAborted⟩ := ih (s₁.noting (mendedRecord e)) k cause hLater hMisread
          (fun j hj cause' hNow => hFirst (j + 1) (Nat.succ_lt_succ hj) cause'
            (Misreads.succ_iff.mpr (hLength ▸ hNow)))
        refine ⟨s₂, ?_⟩
        rw [matchAll_of_mended hIssues hMatched]
        exact Run.bind_of_error _ hAborted

-- ---------------------------------------------------------------------------
-- One script
-- ---------------------------------------------------------------------------

/-- No parentheses stand in a blank script. -/
theorem parenIssues_of_allBlank (h : Text.allBlank script = true) : parenIssues script = [] := by
  have hNot (c : Char) (hc : isBlank c = false) : c ∉ script := by
    intro hMem
    have := List.all_eq_true.mp h c hMem
    rw [hc] at this
    simp at this
  exact Script.parenIssues_of_balanced
    (Script.nested_of_not_mem (hNot '(' (by decide)) (hNot ')' (by decide)))

theorem mendedContent_eq_none (h : parenIssues script = []) : mendedContent script = none := by
  rw [mendedContent, h]
  rfl

/-- A script that is mended was no shader code and not blank, and is balanced then. -/
theorem mendedContent_spec {new : Text} (h : mendedContent script = some new) :
    isShader script = false ∧ Text.allBlank script = false ∧ Balanced new ∧
      Script.Mended script new := by
  have hIssues : parenIssues script ≠ [] := by
    intro hNil
    rw [mendedContent_eq_none hNil] at h
    simp at h
  have hShader : isShader script = false := by
    by_contra hShader
    rw [Bool.not_eq_false] at hShader
    exact hIssues (by rw [parenIssues, hShader]; rfl)
  have hBlank : Text.allBlank script = false := by
    by_contra hBlank
    rw [Bool.not_eq_false] at hBlank
    exact hIssues (parenIssues_of_allBlank hBlank)
  rw [mendedContent, if_neg (by simpa using hIssues), Option.some.injEq] at h
  rw [← h]
  exact ⟨hShader, hBlank, Script.mendParens_spec hShader⟩

/-- How an element comes out of the pass: its script is balanced, unless it is shader
code and is left alone. -/
structure IsMatched (p q : Piece) : Prop where
  /-- The text before the element is the same. -/
  gap : q.gap = p.gap
  /-- So is the opening tag. -/
  opening : q.opening = p.opening
  /-- So is the closing tag. -/
  closing : q.closing = p.closing
  /-- A script with code in it still has code in it. -/
  blank : Text.allBlank q.content = Text.allBlank p.content
  /-- No script becomes shader code, or ceases to be. -/
  kind : isShader q.content = isShader p.content
  /-- Shader code is left alone. -/
  shader : isShader p.content = true → q.content = p.content
  /-- Every other script is balanced. -/
  balanced : isShader p.content = false → Balanced q.content

/-- An element with its script mended, if there is anything to mend. -/
def mendedPiece (p : Piece) : Piece :=
  { p with content := (mendedContent p.content).getD p.content }

theorem isMatched_mendedPiece (p : Piece) : IsMatched p (mendedPiece p) := by
  unfold mendedPiece
  cases hMended : mendedContent p.content with
  | none =>
    refine ⟨rfl, rfl, rfl, rfl, rfl, fun _ => rfl, ?_⟩
    intro hShader
    refine Script.balanced_of_parenIssues_eq_nil hShader ?_
    unfold mendedContent at hMended
    split at hMended
    · next hIssues => exact List.isEmpty_iff.mp hIssues
    · simp at hMended
  | some new =>
    obtain ⟨hShader, hBlank, hBalanced, hNew⟩ := mendedContent_spec hMended
    refine ⟨rfl, rfl, rfl, ?_, ?_, ?_, fun _ => hBalanced⟩
    · rw [hBlank]
      exact hNew.allBlank_eq_false hBlank
    · rw [hShader]
      exact hNew.isShader_eq_false hShader
    · intro hIs
      rw [hShader] at hIs
      exact absurd hIs (by simp)

/-- An element that comes out of the pass has no unmatched parentheses. -/
theorem IsMatched.parenIssues_eq_nil {p q : Piece} (h : IsMatched p q) :
    parenIssues q.content = [] := by
  cases hShader : isShader q.content with
  | true =>
    rw [parenIssues, hShader]
    rfl
  | false =>
    rw [h.kind] at hShader
    exact Script.parenIssues_of_balanced (h.balanced hShader)

-- ---------------------------------------------------------------------------
-- The page
-- ---------------------------------------------------------------------------

/-- Blank scripts have nothing to be mended, and nothing to be counted. -/
theorem mended_inhabited (es : List Element) :
    updatesOf (fun e => mendedContent e.content) (es.filter (!·.isBlank)) =
        updatesOf (fun e => mendedContent e.content) es ∧
      issueCount (es.filter (!·.isBlank)) = issueCount es := by
  induction es with
  | nil => exact ⟨rfl, rfl⟩
  | cons e es ih =>
    obtain ⟨hUpdates, hCount⟩ := ih
    cases hBlank : e.isBlank with
    | true =>
      have hIssues := parenIssues_of_allBlank hBlank
      rw [List.filter_cons_of_neg (by simp [hBlank]), hUpdates, hCount]
      simp [updatesOf, issueCount, mendedContent_eq_none hIssues, hIssues]
    | false =>
      rw [List.filter_cons_of_pos (by simp [hBlank])]
      constructor
      · unfold updatesOf at hUpdates ⊢
        rw [List.filterMap_cons, List.filterMap_cons, hUpdates]
      · unfold issueCount at hCount ⊢
        rw [List.map_cons, List.map_cons, List.sum_cons, List.sum_cons, hCount]

/-- Nothing is mended where nothing is counted. -/
theorem updatesOf_eq_nil {es : List Element} (h : issueCount es = 0) :
    updatesOf (fun e => mendedContent e.content) es = [] := by
  rw [updatesOf, List.filterMap_eq_nil_iff]
  intro e he
  have hNone : (parenIssues e.content).length = 0 :=
    List.sum_eq_zero_iff_forall_eq_nat.mp h _ (List.mem_map_of_mem he)
  rw [mendedContent_eq_none (List.length_eq_zero_iff.mp hNone), Option.map_none]

/-- The page with all its scripts mended mechanically. -/
def mendedPage (page : Text) : Text :=
  Document.replaceContents
    (updatesOf (fun e => mendedContent e.content) (Document.elements .script page)) page

theorem mendedPage_eq_self {page : Text} (h : issueCount (Document.elements .script page) = 0) :
    mendedPage page = page := by
  rw [mendedPage, updatesOf_eq_nil h, Document.replaceContents, List.mergeSort_nil]
  rfl

theorem run_of_unhelped {page : Text}
    (h : Unhelped team s.questions.length (faulty (Document.inlineScripts page)))
    (hRead : ∀ k cause,
      ¬ Misreads team s.questions.length (faulty (Document.inlineScripts page)) k cause) :
    ∃ s', parenthesis.run team page s =
      (.ok ⟨parenthesisName, mendedPage page, issueCount (Document.elements .script page), false,
        none⟩, s') := by
  obtain ⟨s₁, hScripts⟩ := matchAll_of_unhelped (Document.inlineScripts page)
    (s.noting (.passStarted parenthesisName)) h hRead
  obtain ⟨hUpdates, hCount⟩ := mended_inhabited (Document.elements .script page)
  rw [Document.inlineScripts, Document.inhabited, hUpdates, hCount] at hScripts
  have hRepair : parenthesis.repair team page (s.noting (.passStarted parenthesisName)) =
      (.ok (mendedPage page, issueCount (Document.elements .script page)), s₁) :=
    Run.bind_of_ok _ hScripts
  refine ⟨s₁.noting (.completed parenthesisName
    (issueCount (Document.elements .script page)) untimed none), ?_⟩
  rw [run_of_ok rfl hRepair]
  by_cases hZero : issueCount (Document.elements .script page) = 0
  · rw [if_pos hZero, mendedPage_eq_self hZero]
    rfl
  · rw [if_neg hZero]
    rfl

/-- The elements of a mended page are the elements of the page, mended one by one. -/
theorem dissect_mendedPage (page : Text) :
    Document.dissect .script (mendedPage page) =
      ((Document.dissect .script page).1.map mendedPiece, (Document.dissect .script page).2) := by
  have hContent : ∀ e ∈ Document.elements .script page, ∀ new,
      mendedContent e.content = some new → Document.IsContent .script new := by
    intro e he new hNew
    obtain ⟨-, -, -, hMended⟩ := mendedContent_spec hNew
    exact hMended.isContent (Document.isContent_of_mem_elements he)
  rw [mendedPage, Document.dissect_replaceContents (List.Perm.refl _) hContent,
    Document.revised_eq_map (fun _ => rfl)]
  rfl

/-- A mended page has no unmatched parentheses. -/
theorem issueCount_mendedPage (page : Text) :
    issueCount (Document.elements .script (mendedPage page)) = 0 := by
  rw [issueCount, List.sum_eq_zero_iff_forall_eq_nat]
  intro n hn
  obtain ⟨e, he, rfl⟩ := List.mem_map.mp hn
  have hMem : e.content ∈ (Document.elements .script (mendedPage page)).map (·.content) :=
    List.mem_map_of_mem he
  rw [Document.elements, Document.map_content_locate, dissect_mendedPage, List.map_map] at hMem
  obtain ⟨p, -, hContent⟩ := List.mem_map.mp hMem
  have hNone : parenIssues (mendedPiece p).content = [] :=
    (isMatched_mendedPiece p).parenIssues_eq_nil
  rw [← hContent]
  exact List.length_eq_zero_iff.mpr hNone

/-- On a page without unmatched parentheses the pass counts nothing and changes nothing. -/
theorem run_of_no_issues {page : Text} (h : issueCount (Document.elements .script page) = 0)
    (team : Collaborators) (s : Progress) :
    ∃ s', parenthesis.run team page s = (.ok ⟨parenthesisName, page, 0, false, none⟩, s') := by
  have hFaulty : faulty (Document.inlineScripts page) = [] := by
    rw [faulty, List.filter_eq_nil_iff]
    intro e he
    have hNone : (parenIssues e.content).length = 0 :=
      List.sum_eq_zero_iff_forall_eq_nat.mp h _ (List.mem_map_of_mem (List.mem_of_mem_filter he))
    simpa using hNone
  have hUnhelped : Unhelped team s.questions.length (faulty (Document.inlineScripts page)) := by
    rw [hFaulty]
    intro oracle _ k e hk
    simp at hk
  have hRead (k : Nat) (cause : Abort) :
      ¬ Misreads team s.questions.length (faulty (Document.inlineScripts page)) k cause := by
    rw [hFaulty]
    rintro ⟨oracle, e, -, hk, -⟩
    simp at hk
  obtain ⟨s', hRun⟩ := run_of_unhelped hUnhelped hRead
  rw [mendedPage_eq_self h, h] at hRun
  exact ⟨s', hRun⟩

/-- **Matching without help**: when no reply is of use and every answer can be read, the
pass yields a page with the same elements, in which every script is balanced or shader
code that was left alone, and the same text around them; it counts every unmatched
parenthesis once. On that page the pass counts nothing and changes nothing, whoever it
works with. The first answer that cannot be read aborts the pass instead, and no page
comes of it. -/
theorem parenthesis_balances {page : Text}
    (h : Unhelped team s.questions.length (faulty (Document.inlineScripts page))) :
    ((∀ k cause,
        ¬ Misreads team s.questions.length (faulty (Document.inlineScripts page)) k cause) →
      ∃ page' s', parenthesis.run team page s =
          (.ok ⟨parenthesisName, page', issueCount (Document.elements .script page), false, none⟩,
            s') ∧
        List.Forall₂ IsMatched (Document.dissect .script page).1
          (Document.dissect .script page').1 ∧
        (Document.dissect .script page').2 = (Document.dissect .script page).2 ∧
        ∀ team' r, ∃ r',
          parenthesis.run team' page' r = (.ok ⟨parenthesisName, page', 0, false, none⟩, r')) ∧
    ∀ k cause,
      Misreads team s.questions.length (faulty (Document.inlineScripts page)) k cause →
      (∀ j < k, ∀ cause',
        ¬ Misreads team s.questions.length (faulty (Document.inlineScripts page)) j cause') →
      ∃ s', parenthesis.run team page s = (.error cause, s') := by
  constructor
  · intro hRead
    obtain ⟨s', hRun⟩ := run_of_unhelped h hRead
    refine ⟨mendedPage page, s', hRun, ?_, by rw [dissect_mendedPage],
      run_of_no_issues (issueCount_mendedPage page)⟩
    rw [dissect_mendedPage, List.forall₂_map_right_iff, List.forall₂_same]
    intro p _
    exact isMatched_mendedPiece p
  · intro k cause hMisread hFirst
    obtain ⟨s₁, hAborted⟩ := matchAll_of_misread (Document.inlineScripts page)
      (s.noting (.passStarted parenthesisName)) k cause h hMisread hFirst
    exact ⟨s₁, run_of_error rfl (Run.bind_of_error _ hAborted)⟩

/-- An oracle that is unavailable at first, and has nothing to propose later. -/
def reluctant : Oracle := fun n _ =>
  if n = 0 then .unavailable "no answer".toList else .answer "[]".toList

theorem readAnswer_nothing : ParenContext.readAnswer "[]".toList = .ok [] := rfl

theorem isUseless_reluctant (n : Nat) (request : Request) :
    IsUseless script (reluctant n request) := by
  unfold reluctant
  split
  · trivial
  · intro patches hPatches
    obtain rfl := Except.ok.inj (readAnswer_nothing.symm.trans hPatches)
    rfl

/-- An oracle that names an infinite line. -/
def boundless : Oracle := fun _ _ => .answer "[\x7b\"lineNumber\": Infinity\x7d]".toList

theorem isMisread_boundless (n : Nat) (request : Request) :
    IsMisread .infinite (boundless n request) := by
  show ParenContext.readAnswer "[\x7b\"lineNumber\": Infinity\x7d]".toList = .error .infinite
  decide +kernel

/-- A page on which a call is left open and another one is closed twice. -/
def twoCalls : Text := "<script>f((1);</script><script>g(2));</script>".toList

/-- The reluctant oracle leaves both scripts to be mended, the boundless one aborts the pass
at the first. -/
theorem parenthesis_balances_twoCalls :
    (Unhelped ⟨some reluctant, none⟩ Progress.initial.questions.length
        (faulty (Document.inlineScripts twoCalls)) ∧
      ∃ page' s', parenthesis.run ⟨some reluctant, none⟩ twoCalls .initial =
          (.ok ⟨parenthesisName, page', issueCount (Document.elements .script twoCalls), false,
            none⟩, s') ∧
        List.Forall₂ IsMatched (Document.dissect .script twoCalls).1
          (Document.dissect .script page').1 ∧
        (Document.dissect .script page').2 = (Document.dissect .script twoCalls).2 ∧
        ∀ team' r, ∃ r',
          parenthesis.run team' page' r = (.ok ⟨parenthesisName, page', 0, false, none⟩, r')) ∧
    Unhelped ⟨some boundless, none⟩ Progress.initial.questions.length
        (faulty (Document.inlineScripts twoCalls)) ∧
      ∃ s', parenthesis.run ⟨some boundless, none⟩ twoCalls .initial = (.error .infinite, s') := by
  have hUnhelped : Unhelped ⟨some reluctant, none⟩ Progress.initial.questions.length
      (faulty (Document.inlineScripts twoCalls)) := by
    intro oracle hOracle k e _
    rw [Option.some.injEq] at hOracle
    rw [← hOracle]
    exact isUseless_reluctant _ _
  have hRead (k : Nat) (cause : Abort) : ¬ Misreads ⟨some reluctant, none⟩
      Progress.initial.questions.length (faulty (Document.inlineScripts twoCalls)) k cause := by
    rintro ⟨oracle, e, hOracle, -, hMisread⟩
    rw [← Option.some.inj hOracle] at hMisread
    unfold reluctant at hMisread
    split at hMisread
    · exact hMisread
    · exact absurd (readAnswer_nothing.symm.trans hMisread) (by simp)
  have hBoundless : Unhelped ⟨some boundless, none⟩ Progress.initial.questions.length
      (faulty (Document.inlineScripts twoCalls)) := by
    intro oracle hOracle k e _
    obtain rfl := Option.some.inj hOracle
    intro patches hPatches
    exact absurd ((isMisread_boundless 0 ⟨[], [], 0⟩).symm.trans hPatches) (by simp)
  obtain ⟨e, hScript⟩ : ∃ e, (faulty (Document.inlineScripts twoCalls))[0]? = some e :=
    Option.isSome_iff_exists.mp (by decide +kernel)
  have hMisread : Misreads ⟨some boundless, none⟩ Progress.initial.questions.length
      (faulty (Document.inlineScripts twoCalls)) 0 .infinite :=
    ⟨boundless, e, rfl, hScript, isMisread_boundless _ _⟩
  exact ⟨⟨hUnhelped, (parenthesis_balances hUnhelped).1 hRead⟩, hBoundless,
    (parenthesis_balances hBoundless).2 0 _ hMisread fun j hj => absurd hj (Nat.not_lt_zero j)⟩

end Pass

end SketchRepair
