import SketchRepair.Proofs.Repair.ScriptTag
import SketchRepair.Proofs.Text.Places
import SketchRepair.Repair.Pass.Shader

/-!
# SketchRepair — where shader materials are replaced

The materials of a page are known by their places, and one after the other is sent to the
oracle. But what comes back is put where the text of the material stands first in the page
as it then is. That is another place if an equal material further in front has been kept,
or if a new material further in front holds the text. Then that one gives way, and the
material that was asked about stays.

* `answer?`, `newMaterial?` — what is suggested for a material;
* `Rewritten` — the fixes counted, one material after the other;
* `replaceShaders_run` — the run makes these fixes;
* `separate_shaderBlocks` — materials do not overlap;
* `shader_replaces_first` — **which materials give way, and when in their own place**.
-/

namespace SketchRepair

namespace Pass

open Document (shaderBlocks)
open Prompt (ShaderContext)
open Text (Separate StandsFirst between inPlace inPlace_nil inTurn placeIn)

-- ---------------------------------------------------------------------------
-- What is suggested
-- ---------------------------------------------------------------------------

/-- The answer to a question that gets the reply number `n`. -/
def answer? (team : Collaborators) (n : Nat) (request : Request) : Option Text :=
  match team.oracle with
  | none => none
  | some oracle =>
    match oracle n request with
    | .answer answer => some answer
    | _ => none

/-- The material that the reply number `n` suggests for another one. -/
def newMaterial? (team : Collaborators) (n : Nat) (c : ShaderContext) : Option Text :=
  (answer? team n c.request).bind c.readAnswer

/-- The fixes counted for the materials in some places of the page `source`, when the replies
begin with the number `n`: the places whose text gives way in the page as it then is, each
with the new text. -/
inductive Rewritten (team : Collaborators) (source error : Text) : (n : Nat) → (page : Text) →
    (places : List (Nat × Nat)) → (fixes : List ((Nat × Nat) × Text)) → Prop where
  | done {n : Nat} {page : Text} : Rewritten team source error n page [] []
  | used {n : Nat} {page new : Text} {place : Nat × Nat} {places : List (Nat × Nat)}
      {fixes : List ((Nat × Nat) × Text)}
      (hNew : newMaterial? team n ⟨between place source, error⟩ = some new)
      (hHas : Text.has (between place source) page = true)
      (hRest : Rewritten team source error (n + 1)
        (Text.replaceFirst (between place source) new page) places fixes) :
      Rewritten team source error n page (place :: places) ((place, new) :: fixes)
  | kept {n : Nat} {page : Text} {place : Nat × Nat} {places : List (Nat × Nat)}
      {fixes : List ((Nat × Nat) × Text)}
      (hKept : newMaterial? team n ⟨between place source, error⟩ = none ∨
        Text.has (between place source) page = false)
      (hRest : Rewritten team source error (n + 1) page places fixes) :
      Rewritten team source error n page (place :: places) fixes

variable {team : Collaborators} {source error page : Text} {n m : Nat} {s : Progress}
  {places : List (Nat × Nat)} {fixes : List ((Nat × Nat) × Text)}

theorem Rewritten.sublist (h : Rewritten team source error n page places fixes) :
    (fixes.map Prod.fst).Sublist places := by
  induction h with
  | done => exact .slnil
  | used _ _ _ ih => exact ih.cons_cons _
  | kept _ _ ih => exact ih.cons _

theorem newMaterial?_of_none (hNone : team.oracle = none) (n : Nat) (c : ShaderContext) :
    newMaterial? team n c = none := by
  rw [newMaterial?, answer?, hNone]
  rfl

/-- Without an oracle the numbers of the replies do not matter. -/
theorem Rewritten.renumbered (hNone : team.oracle = none)
    (h : Rewritten team source error n page places fixes) :
    Rewritten team source error m page places fixes := by
  induction h generalizing m with
  | done => exact .done
  | used hNew _ _ _ => simp [newMaterial?_of_none hNone] at hNew
  | kept _ _ ih => exact .kept (.inl (newMaterial?_of_none hNone ..)) ih

-- ---------------------------------------------------------------------------
-- The run
-- ---------------------------------------------------------------------------

/-- A question: the oracle fails, or what it answers is there. -/
theorem ask_cases (team : Collaborators) (pass : Text) (request : Request) (s : Progress) :
    FailsAt team (Run.ask pass team.oracle request s) ∨
      ∃ q, (team.oracle = none ∨ q.questions.length = s.questions.length + 1) ∧
        Run.ask pass team.oracle request s =
          (.ok (answer? team s.questions.length request), q) := by
  unfold answer?
  cases hOracle : team.oracle with
  | none => exact .inr ⟨_, .inl rfl, Run.ask_of_none ..⟩
  | some oracle =>
    dsimp only
    cases hReply : oracle s.questions.length request with
    | failure text => exact .inl ⟨oracle, _, _, text, _, hOracle, hReply, Run.ask_of_failure hReply⟩
    | unavailable reason =>
      refine .inr ⟨_, .inr ?_, Run.ask_of_unavailable hReply⟩
      simp
    | answer answer =>
      refine .inr ⟨_, .inr ?_, Run.ask_of_answer hReply⟩
      simp

/-- All materials, one after the other: the oracle fails, or the fixes are made. -/
theorem replaceShaders_run (places : List (Nat × Nat)) : ∀ (page : Text) (s : Progress),
    FailsAt team (replaceShaders team source error page places s) ∨
      ∃ fixes q, replaceShaders team source error page places s =
          (.ok (inTurn source page fixes, fixes.length), q) ∧
        Rewritten team source error s.questions.length page places fixes := by
  induction places with
  | nil =>
    intro page s
    exact .inr ⟨[], s, rfl, .done⟩
  | cons place rest ih =>
    intro page s
    rw [replaceShaders]
    rcases ask_cases team shaderName (ShaderContext.request ⟨between place source, error⟩) s with
      ⟨oracle, n, request, text, q, hOracle, hReply, hFails⟩ | ⟨q, hNumber, hAsk⟩
    · exact .inl ⟨oracle, n, request, text, q, hOracle, hReply, Run.bind_of_error _ hFails⟩
    rw [Run.bind_of_ok _ hAsk]
    have hLater {next : Text} {fixes : List ((Nat × Nat) × Text)}
        (h : Rewritten team source error q.questions.length next rest fixes) :
        Rewritten team source error (s.questions.length + 1) next rest fixes := by
      rcases hNumber with hNone | hNext
      · exact h.renumbered hNone
      · rwa [hNext] at h
    have hKeep (hKept : newMaterial? team s.questions.length ⟨between place source, error⟩ = none ∨
          Text.has (between place source) page = false) :
        FailsAt team (replaceShaders team source error page rest q) ∨
          ∃ fixes q', replaceShaders team source error page rest q =
              (.ok (inTurn source page fixes, fixes.length), q') ∧
            Rewritten team source error s.questions.length page (place :: rest) fixes := by
      refine (ih page q).imp_right ?_
      rintro ⟨fixes, q', hRun, hRest⟩
      exact ⟨fixes, q', hRun, .kept hKept (hLater hRest)⟩
    cases hAnswer : answer? team s.questions.length
        (ShaderContext.request ⟨between place source, error⟩) with
    | none => exact hKeep (.inl (by rw [newMaterial?, hAnswer, Option.bind_none]))
    | some answer =>
      have hNew : newMaterial? team s.questions.length ⟨between place source, error⟩ =
          ShaderContext.readAnswer ⟨between place source, error⟩ answer := by
        rw [newMaterial?, hAnswer, Option.bind_some]
      dsimp only
      cases hRead : ShaderContext.readAnswer ⟨between place source, error⟩ answer with
      | none => exact hKeep (.inl (hNew.trans hRead))
      | some new =>
        dsimp only
        by_cases hHas : Text.has (between place source) page = true
        · rw [if_pos hHas, Run.log_bind_apply]
          rcases ih (Text.replaceFirst (between place source) new page) _ with
            ⟨oracle, n, request, text, q', hOracle, hReply, hFails⟩ | ⟨fixes, q', hRun, hRest⟩
          · exact .inl ⟨oracle, n, request, text, q', hOracle, hReply, Run.bind_of_error _ hFails⟩
          · exact .inr ⟨(place, new) :: fixes, q', Run.bind_of_ok _ hRun,
              .used (hNew.trans hRead) hHas (hLater hRest)⟩
        · rw [if_neg hHas]
          exact hKeep (.inr (by simpa using hHas))

-- ---------------------------------------------------------------------------
-- The page
-- ---------------------------------------------------------------------------

/-- A material that begins here begins like one, and ends in the text. -/
theorem shaderBlockHere_eq_some {t : Text} (h : Document.shaderBlockHere t = some n) :
    "new THREE.ShaderMaterial(\x7b".toList <+: t ∧ 0 < n ∧ n ≤ t.length := by
  rw [Document.shaderBlockHere] at h
  dsimp only at h
  split at h
  · simp at h
  next r hOpener =>
  obtain ⟨⟨body, rest⟩, hCloser, hLength⟩ := Option.map_eq_some_iff.mp h
  have hText := Text.after?_eq_some.mp hOpener
  refine ⟨⟨r, hText.symm⟩, ?_, ?_⟩
  · rw [← hLength]
    exact Nat.add_pos_left (Nat.add_pos_left (Nat.add_pos_left (by decide) _) _) _
  · have hSemicolon : (if rest.head? = some ';' then 1 else 0) ≤ rest.length := by
      cases rest with
      | nil => exact Nat.le_refl 0
      | cons c rest =>
        rw [List.length_cons]
        split <;> omega
    rw [hText, Text.cut?_eq_some hCloser, List.length_append, List.length_append,
      List.length_append]
    dsimp only at hLength
    omega

theorem solid_shaderBlockHere : Text.Solid fun _ t => Document.shaderBlockHere t :=
  ⟨fun h => (shaderBlockHere_eq_some h).2.1, fun h => (shaderBlockHere_eq_some h).2.2⟩

/-- Materials do not overlap. -/
theorem separate_shaderBlocks (page : Text) : Separate page (shaderBlocks page) :=
  Text.separate_spans solid_shaderBlockHere page

/-- The pass concerns every page that holds a material. -/
theorem makesShaderMaterial_of_mem {place : Nat × Nat} (h : place ∈ shaderBlocks page) :
    Document.makesShaderMaterial page = true := by
  obtain ⟨-, x, y, z, hPage, -, -, -, hHere⟩ :=
    (Text.spans_scan solid_shaderBlockHere page).sound place h
  obtain ⟨rest, hRest⟩ := (shaderBlockHere_eq_some hHere).1
  refine Text.hasFold_iff.mpr (List.IsInfix.trans ?_ (List.IsInfix.map fold
    (⟨x, rest, ?_⟩ : "new THREE.ShaderMaterial(\x7b".toList <:+: page)))
  · decide
  · rw [List.append_assoc, hRest]
    exact hPage.symm

/-- The shader error that is reported first when the page is run next. -/
def shaderFault? (team : Collaborators) (page : Text) (s : Progress) : Option Text :=
  team.executor.bind fun executor =>
    (Page.shaderErrors (executor s.settleTimes.length page)).head?

/-- The pass at work on a page with a shader error: the oracle fails, or the fixes are made. -/
theorem shader_repair (hFault : shaderFault? team page s = some error) :
    FailsAt team (shader.repair team page s) ∨
      ∃ fixes q, shader.repair team page s = (.ok (inTurn page page fixes, fixes.length), q) ∧
        Rewritten team page error s.questions.length page (shaderBlocks page) fixes := by
  obtain ⟨executor, hExecutor, hHead⟩ := Option.bind_eq_some_iff.mp hFault
  obtain ⟨errors, hErrors⟩ := List.head?_eq_some_iff.mp hHead
  unfold shader
  dsimp only
  rw [hExecutor]
  dsimp only
  rw [Run.execute_bind_apply, hErrors]
  exact replaceShaders_run _ page (s.settling (some shaderSettle))

/-- **Which materials give way.** When the page reports a shader error, the pass is aborted
only if the oracle fails. Otherwise the fixes counted are the materials for which the replies,
in order, give a new text, and whose old text still stands in the page when their turn comes;
and the page is the one in which these texts were replaced, one after the other, each where it
stands first. As long as every material has given way in its own place, the next one does so
if its text stands nowhere before it; else what gives way is that text further in front. If no
text stands before its place, every material that is counted has given way in its own place,
and nothing else has changed. -/
theorem shader_replaces_first (team : Collaborators) (page error : Text) (s : Progress)
    (hFault : shaderFault? team page s = some error) :
    FailsAt team (shader.run team page s) ∨
      ∃ fixes r q, shader.run team page s = (.ok r, q) ∧ r.fixes = fixes.length ∧
        r.page = inTurn page page fixes ∧
        Rewritten team page error s.questions.length page (shaderBlocks page) fixes ∧
        Separate page (fixes.map Prod.fst) ∧
        (∀ done u later, fixes = done ++ u :: later →
          inTurn page page done = inPlace done page →
          (StandsFirst done page u.1 →
            inTurn page page (done ++ [u]) = inPlace (done ++ [u]) page) ∧
          (¬ StandsFirst done page u.1 → ∃ a b, inPlace done page = a ++ between u.1 page ++ b ∧
            a.length < placeIn done page u.1 ∧
            inTurn page page (done ++ [u]) = a ++ u.2 ++ b)) ∧
        ((∀ done u later, fixes = done ++ u :: later → StandsFirst done page u.1) →
          r.page = inPlace fixes page) := by
  by_cases hApplies : shader.applies page = true
  case neg =>
    -- such a page holds no material
    have hNone : shaderBlocks page = [] :=
      List.eq_nil_iff_forall_not_mem.mpr fun _ h => hApplies (makesShaderMaterial_of_mem h)
    exact .inr ⟨[], _, _, run_of_not_applies hApplies, rfl, rfl, hNone ▸ .done,
      (separate_shaderBlocks page).sublist (List.nil_sublist _), by simp,
      fun _ => (inPlace_nil page).symm⟩
  rcases shader_repair (s := s.noting (.passStarted shader.name)) hFault with
    ⟨oracle, n, request, text, q, hOracle, hReply, hFails⟩ | ⟨fixes, q, hRepair, hFixes⟩
  · exact .inl ⟨oracle, n, request, text, q, hOracle, hReply, run_of_error hApplies hFails⟩
  have hPlaces := (separate_shaderBlocks page).sublist hFixes.sublist
  have hPage : (if fixes.length = 0 then page else inTurn page page fixes) =
      inTurn page page fixes := by
    split
    · next hNone =>
      rw [List.length_eq_zero_iff.mp hNone]
      rfl
    · rfl
  refine .inr ⟨fixes, _, _, run_of_ok hApplies hRepair, rfl, hPage, hFixes, hPlaces, ?_, ?_⟩
  · rintro done u later rfl hDone
    exact ⟨fun hFirst => Text.inTurn_concat_of_first hPlaces.upTo hDone hFirst u.2,
      fun hFirst => Text.inTurn_concat_of_not_first hPlaces.upTo hDone hFirst u.2⟩
  · intro hFirst
    exact hPage.trans (hPlaces.inTurn_eq_inPlace hFirst)

/-- A material with nothing in it, and one with a word. -/
def emptyMaterial : Text := "new THREE.ShaderMaterial(\x7b\x7d)".toList

def wordMaterial : Text := "new THREE.ShaderMaterial(\x7bb\x7d)".toList

/-- The first reply is no answer. The second one is a new material. -/
def secondAnswered : Collaborators where
  oracle := some fun n _ => if n = 0 then .unavailable [] else .answer wordMaterial
  executor := some fun _ _ => [⟨.consoleError, "SHADER_INFO".toList, none, none⟩]

/-- Of two equal materials the first gives way to the answer that is for the second. -/
theorem shader_replaces_first_equalMaterials :
    shaderFault? secondAnswered (emptyMaterial ++ emptyMaterial) .initial =
        some "SHADER_INFO".toList ∧
      ∃ r q, shader.run secondAnswered (emptyMaterial ++ emptyMaterial) .initial = (.ok r, q) ∧
        r.fixes = 1 ∧ r.page = wordMaterial ++ emptyMaterial ∧
        inPlace [((28, 56), wordMaterial)] (emptyMaterial ++ emptyMaterial) =
          emptyMaterial ++ wordMaterial ∧
        ¬ StandsFirst [] (emptyMaterial ++ emptyMaterial) (28, 56) := by
  have hFault : shaderFault? secondAnswered (emptyMaterial ++ emptyMaterial) .initial =
      some "SHADER_INFO".toList := by
    decide
  have hPlaces : shaderBlocks (emptyMaterial ++ emptyMaterial) = [(0, 28), (28, 56)] := by
    decide +kernel
  refine ⟨hFault, ?_⟩
  rcases shader_replaces_first secondAnswered _ _ .initial hFault with
    ⟨oracle, n, request, text, q, hOracle, hReply, -⟩ |
      ⟨fixes, r, q, hRun, hCount, hPage, hFixes, -⟩
  · -- this oracle does not fail
    rw [← Option.some.inj hOracle] at hReply
    dsimp only at hReply
    split at hReply <;> simp at hReply
  have hFirst : newMaterial? secondAnswered 0 ⟨between (0, 28) (emptyMaterial ++ emptyMaterial),
      "SHADER_INFO".toList⟩ = none := by
    decide
  have hSecond : newMaterial? secondAnswered 1 ⟨between (28, 56) (emptyMaterial ++ emptyMaterial),
      "SHADER_INFO".toList⟩ = some wordMaterial := by
    decide +kernel
  have hOnly : fixes = [((28, 56), wordMaterial)] := by
    rw [show Progress.initial.questions.length = 0 from rfl, hPlaces] at hFixes
    cases hFixes with
    | used hNew _ _ => exact absurd (hFirst.symm.trans hNew) (by simp)
    | kept _ hRest =>
      cases hRest with
      | kept hKept _ => exact absurd hKept (by rw [hSecond]; decide)
      | used hNew _ hRest =>
        cases hRest
        rw [Option.some.inj (hNew.symm.trans hSecond)]
  subst hOnly
  refine ⟨r, q, hRun, hCount, hPage.trans (by decide), by decide, fun hFirst => ?_⟩
  -- the text of the second material also stands in the first place
  exact absurd (hFirst [] emptyMaterial (by decide)) (by decide)

end Pass

end SketchRepair
