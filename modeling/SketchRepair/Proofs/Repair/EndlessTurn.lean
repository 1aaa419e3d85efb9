import SketchRepair.Proofs.Repair.UndefinedVariable

/-!
# SketchRepair — a turn that never ends

An answer may close a script and open another one that mentions the variable again. The
turn comes to that script next, asks about it, and is given the same answer. So the turn
goes on forever, and so does the pass.

* `turn_tearing` — however far such a turn is followed, it is not over;
* `defineFrom_tearing`, `repair_tearing` — the turn has no outcome, and the pass does not end.
-/

namespace SketchRepair

namespace Pass

open Document (Piece assemble solid inlineScripts)

/-- What the answer makes of the script that it is about. -/
def torn : Text := "y</script><script>x".toList

def tearingAnswer : Text :=
  ("[\x7b\"lineNumber\": 1, \"original\": \"x\", " ++
    "\"replacement\": \"y</script><script>x\"\x7d]").toList

/-- An oracle that closes every script and opens another one. -/
def tearing : Collaborators :=
  ⟨some fun _ _ => .answer tearingAnswer, some fun _ _ => [missingXEvent]⟩

/-- A script with nothing before it. -/
def bareScript (content : Text) : Piece := ⟨[], "<script>".toList, content, "</script>".toList⟩

/-- The page behind the visit number `k`: so many scripts are done, and there is one more. -/
def tornPage (k : Nat) : Text :=
  assemble (List.replicate k (bareScript ['y']) ++ [bareScript ['x']]) []

variable {s : Progress} {k : Nat}

theorem bareScript_isElement {content : Text} (h : Document.IsContent .script content) :
    (bareScript content).IsElement .script :=
  have hGap : ¬ Document.Tag.script.opener <:+: ([] : Text).map fold := by decide
  have hClosing : Document.IsClosing .script "</script>".toList := by decide
  ⟨hGap, ⟨"<script".toList, [], rfl, by decide, by decide⟩, h, hClosing⟩

theorem tornPage_succ (k : Nat) :
    assemble (List.replicate k (bareScript ['y']) ++ [{ bareScript ['x'] with content := torn }]) [] =
      tornPage (k + 1) := by
  have hText : ({ bareScript ['x'] with content := torn } : Piece).text =
      (bareScript ['y']).text ++ (bareScript ['x']).text := by decide
  rw [tornPage, List.replicate_succ', assemble, assemble]
  simp only [List.flatMap_append, List.flatMap_singleton, hText, List.append_assoc]

theorem exists_script_tornPage (k : Nat) :
    ∃ e, (inlineScripts (tornPage k))[k]? = some e ∧ e.content = ['x'] ∧
      e.replaceContent torn (tornPage k) = tornPage (k + 1) := by
  have hPieces : ∀ p ∈ List.replicate k (bareScript ['y']) ++ [bareScript ['x']],
      p.IsElement .script := by
    refine List.forall_mem_append.mpr ⟨fun p hp => ?_, List.forall_mem_singleton.mpr ?_⟩
    · rw [List.eq_of_mem_replicate hp]
      exact bareScript_isElement (by decide)
    · exact bareScript_isElement (by decide)
  have hDone : solid (List.replicate k (bareScript ['y'])) = k := by
    rw [solid, List.countP_replicate, if_pos (by decide)]
  obtain ⟨e, hScript, hContent, hReplace⟩ :=
    Document.exists_script_of_piece hPieces Document.isTail_nil (by decide)
  rw [hDone] at hScript
  exact ⟨e, hScript, hContent, (hReplace torn).trans (tornPage_succ k)⟩

theorem defineIn_tearing (s : Progress) :
    ∃ s', defineIn tearing missingX ['x'] s = (.ok (torn, 1), s') := by
  have hScope : Script.conditionalDeclaration? missingX.name ['x'] = none := by decide
  have hRead : Prompt.UndefinedContext.readAnswer ⟨['x'], missingX.name, missingX.message⟩
      tearingAnswer = .ok [⟨1, ['x'], torn, []⟩] := by
    decide +kernel
  have hOracle : tearing.oracle = some fun _ _ => .answer tearingAnswer := rfl
  unfold defineIn
  rw [hScope, hOracle]
  dsimp only
  rw [Run.bind_of_ok _ (Run.ask_of_answer rfl)]
  dsimp only
  rw [Run.bind_of_ok _ (Run.ofExcept_of_ok hRead _)]
  exact ⟨_, rfl⟩

/-- The visit to the last script leaves one more behind it. -/
theorem visit_tearing (k : Nat) (s : Progress) :
    ∃ e s', (inlineScripts (tornPage k))[k]? = some e ∧
      defineInElement tearing missingX e (tornPage k) s = (.ok (tornPage (k + 1), 1), s') := by
  obtain ⟨e, hScript, hContent, hReplace⟩ := exists_script_tornPage k
  obtain ⟨s', hDefine⟩ := defineIn_tearing s
  have hMentions : Script.mentions missingX.name ['x'] = true := by decide
  refine ⟨e, ?_⟩
  unfold defineInElement
  rw [hContent, if_pos hMentions, Run.bind_of_ok _ hDefine]
  dsimp only
  rw [if_neg (by decide), Run.log_bind_apply, hReplace]
  exact ⟨_, hScript, rfl⟩

/-- However far the turn is followed, it is not over. -/
theorem turn_tearing (n : Nat) : ∀ (k : Nat) (s : Progress), ∃ ws s', ws.length = n ∧
    Turn tearing missingX k (tornPage k) s ws none s' := by
  induction n with
  | zero => exact fun k s => ⟨[], s, rfl, .soFar⟩
  | succ n ih =>
    intro k s
    obtain ⟨e, s₁, hScript, hVisit⟩ := visit_tearing k s
    obtain ⟨ws, s₂, hLength, hRest⟩ := ih (k + 1) s₁
    exact ⟨_ :: ws, s₂, congrArg Nat.succ hLength, .visited hScript hVisit hRest⟩

theorem defineFrom_tearing (s : Progress) :
    defineFrom tearing missingX 0 "<script>x</script>".toList s = none :=
  defineFrom_eq_none_iff.mpr fun n => turn_tearing n 0 s

/-- The pass stays in this turn. -/
theorem repair_tearing (s : Progress) :
    (undefinedVariable.repair tearing "<script>x</script>".toList s).2.endless = true := by
  have hScript : ¬ (inlineScripts "<script>x</script>".toList).isEmpty = true := by decide +kernel
  have hFaults : Page.undefinedVariables [missingXEvent] = .ok [missingX] := by decide +kernel
  have hTurn : defineTurn tearing missingX "<script>x</script>".toList (s.settling none) =
      (.ok ("<script>x</script>".toList, 0), { s.settling none with endless := true }) :=
    Run.ofLoop_of_none (defineFrom_tearing _)
  rw [undefinedVariable_of_faults hScript rfl hFaults, firstOfEachName, firstOfEachName,
    List.filter_nil, defineAll, Run.bind_of_ok _ hTurn]
  rfl

end Pass

end SketchRepair
