import SketchRepair.Proofs.Patch.Block
import SketchRepair.Proofs.Repair.Run
import SketchRepair.Proofs.Script.Block
import SketchRepair.Repair.Pass.MissingFunction

/-!
# SketchRepair — what becomes of the calls of a missing function

A script with calls of a missing function is patched in two stages: what the oracle
proposes is sifted, and mechanical patches are made for blocks that no accepted
proposal touches. All of these patches compete for the lines of the script.

* `commentOutCalls_stretches` — the script behind the repair, by stretches, whatever
  was proposed;
* `commentOutCalls_hides` — only comments are put in, only ranges that close what they
  open are taken out, and what is kept nests as before.
-/

namespace SketchRepair

namespace Pass

open Script (MissingFunction Span Nested isEven)
open Patch (BlockPatch Stretch Placed picked bottomUp)
open Prompt (MissingFunctionContext)

/-- The block around the call on line `n`, counted from one. -/
def callBlock (lines : List Text) (n : Nat) : Span := Script.blockAround lines (n - 1)

/-- The blocks around the calls of a function. -/
def callBlocks (f : MissingFunction) (lines : List Text) : List Span :=
  (f.callLines lines).map (callBlock lines)

/-- The question about the calls of a function in a script. -/
def callsRequest (f : MissingFunction) (script : Text) : Request :=
  MissingFunctionContext.request ⟨script, f, (f.callLines (Text.lines script)).map Int.ofNat,
    callBlocks f (Text.lines script)⟩

/-- What the oracle replies to that question when it is asked now. There is no reply
without an oracle, and none without a call: then the question is not sent. -/
def callsReply (team : Collaborators) (s : Progress) (f : MissingFunction) (script : Text) :
    Option Reply :=
  if f.callLines (Text.lines script) = [] then none
  else team.oracle.map fun oracle => oracle s.questions.length (callsRequest f script)

/-- The patches that are proposed: none without an answer, and those of the answer if
it can be read. A failure of the oracle and an answer that cannot be read propose
nothing, not even the empty list; they abort the pass. -/
inductive Proposes : Option Reply → List BlockPatch → Prop where
  | alone : Proposes none []
  | unavailable {reason : Text} : Proposes (some (.unavailable reason)) []
  | answer {text : Text} {ps : List BlockPatch}
      (hRead : MissingFunctionContext.readAnswer text = .ok ps) :
      Proposes (some (.answer text)) ps

/-- Does nothing speak against the patch? -/
def isAccepted (lines : List Text) (p : BlockPatch) : Bool := (objection? lines p).isNone

/-- The blocks of calls that no patch of a list touches. -/
def untouched (f : MissingFunction) (lines : List Text) (chosen : List BlockPatch) : List Span :=
  (callBlocks f lines).filter fun s => !(chosen.any fun p => s.overlaps p.span)

/-- The patches that compete for the lines of a script: what is proposed and
accepted, and mechanical ones for the blocks that no accepted proposal touches. -/
def competing (f : MissingFunction) (lines : List Text) (proposed : List BlockPatch) :
    List BlockPatch :=
  let chosen := proposed.filter (isAccepted lines)
  chosen ++ (mechanicalPatches lines (untouched f lines chosen) f).filter (isAccepted lines)

/-- The competing patches that get their lines: those picked from the bottom up. -/
def winning (f : MissingFunction) (lines : List Text) (proposed : List BlockPatch) :
    List BlockPatch :=
  picked lines.length (bottomUp (competing f lines proposed))

-- ---------------------------------------------------------------------------
-- The run
-- ---------------------------------------------------------------------------

variable {team : Collaborators} {f : MissingFunction} {script : Text} {lines : List Text}
  {s : Progress} {proposed : List BlockPatch} {p : BlockPatch} {n : Nat}

theorem accepted_apply (lines : List Text) (ps : List BlockPatch) : ∀ s : Progress,
    ∃ s', accepted lines ps s = (.ok (ps.filter (isAccepted lines)), s') := by
  induction ps with
  | nil =>
    intro s
    exact ⟨s, rfl⟩
  | cons p ps ih =>
    intro s
    rw [accepted]
    cases hObjection : objection? lines p with
    | some reason =>
      obtain ⟨s', hRest⟩ := ih (s.noting
        (.patchSkipped missingFunctionName (p.describe ++ ": ".toList ++ reason)))
      have hOut : isAccepted lines p = false := by rw [isAccepted, hObjection]; rfl
      refine ⟨s', ?_⟩
      dsimp only
      rw [Run.log_bind_apply, hRest, List.filter_cons_of_neg (by simp [hOut])]
    | none =>
      obtain ⟨s', hRest⟩ := ih s
      have hIn : isAccepted lines p = true := by rw [isAccepted, hObjection]; rfl
      refine ⟨s', ?_⟩
      dsimp only
      rw [Run.bind_of_ok _ hRest, List.filter_cons_of_pos hIn]
      rfl

theorem blockPatches_apply (lines : List Text) (f : MissingFunction) (proposed : List BlockPatch)
    (s : Progress) :
    ∃ s', blockPatches lines f (callBlocks f lines) proposed s =
      (.ok (competing f lines proposed), s') := by
  obtain ⟨s₁, hChosen⟩ := accepted_apply lines proposed s
  obtain ⟨s₂, hMechanical⟩ := accepted_apply lines
    (mechanicalPatches lines (untouched f lines (proposed.filter (isAccepted lines))) f) s₁
  refine ⟨s₂, ?_⟩
  rw [blockPatches]
  exact Run.bind_eq_of_ok hChosen (Run.bind_eq_of_ok hMechanical rfl)

/-- Behind a question whose reply proposes patches, the run goes on with these. -/
theorem ask_proposes {request : Request}
    (h : Proposes (team.oracle.map fun oracle => oracle s.questions.length request) proposed) :
    ∃ s', ∀ next : List BlockPatch → Run Text,
      (Run.ask missingFunctionName team.oracle request >>= fun answer =>
        match answer with
        | some text => Run.ofExcept (MissingFunctionContext.readAnswer text) >>= next
        | none => pure [] >>= next) s = next proposed s' := by
  cases hOracle : team.oracle with
  | none =>
    rw [hOracle] at h
    cases h with
    | alone => exact ⟨_, fun next => Run.bind_eq_of_ok (Run.ask_of_none ..) rfl⟩
  | some oracle =>
    rw [hOracle, Option.map_some] at h
    generalize hAsked : oracle s.questions.length request = reply at h
    cases h with
    | unavailable =>
      exact ⟨_, fun next => Run.bind_eq_of_ok (Run.ask_of_unavailable hAsked) rfl⟩
    | answer hRead =>
      exact ⟨_, fun next => Run.bind_eq_of_ok (Run.ask_of_answer hAsked)
        (Run.bind_of_ok next (Run.ofExcept_of_ok hRead _))⟩

/-- The patches that compete for the lines of a script are applied to it. -/
theorem commentOutCalls_apply (hReply : Proposes (callsReply team s f script) proposed) :
    ∃ s', commentOutCalls team f script s = (.ok (Patch.applyBlockPatches script
      (competing f (Text.lines script) proposed)).1, s') := by
  by_cases hCalled : f.callLines (Text.lines script) = []
  · -- no call, no patch
    rw [callsReply, if_pos hCalled] at hReply
    cases hReply with
    | alone =>
      have hCompeting : competing f (Text.lines script) [] = [] := by
        rw [competing, untouched, callBlocks, hCalled]
        rfl
      refine ⟨s, ?_⟩
      rw [commentOutCalls]
      dsimp only
      rw [hCalled, hCompeting, if_pos List.isEmpty_nil, Patch.applyBlockPatches_nil]
      rfl
  · rw [callsReply, if_neg hCalled] at hReply
    obtain ⟨s₁, hAsked⟩ := ask_proposes hReply
    obtain ⟨s₂, hPatches⟩ := blockPatches_apply (Text.lines script) f proposed s₁
    refine ⟨s₂, ?_⟩
    rw [commentOutCalls]
    dsimp only
    rw [if_neg (by simpa using hCalled)]
    exact (hAsked _).trans (Run.bind_of_ok _ hPatches)

/-- The script behind the repair, by stretches: whatever was proposed, those of the
competing patches are applied that get their lines. -/
theorem commentOutCalls_stretches (hReply : Proposes (callsReply team s f script) proposed) :
    ∃ s' parts, commentOutCalls team f script s =
        (.ok (Text.unlines (parts.flatMap Stretch.new)), s') ∧
      parts.flatMap Stretch.old = Text.lines script ∧ Placed 1 parts ∧
      parts.filterMap Stretch.patch? = (winning f (Text.lines script) proposed).reverse := by
  obtain ⟨s', hRun⟩ := commentOutCalls_apply hReply
  obtain ⟨parts, hOld, hPlaced, hPatches, hDone⟩ := Patch.applyBlockPatches_spec script
    (competing f (Text.lines script) proposed)
  rw [hDone] at hRun
  exact ⟨s', parts, hRun, hOld, hPlaced, hPatches⟩

-- ---------------------------------------------------------------------------
-- What is put in and what is taken out
-- ---------------------------------------------------------------------------

theorem isAccepted_iff : isAccepted lines p = true ↔
    p.isCommented = true ∧ isEven (replacedText lines p) = true := by
  rw [isAccepted, objection?]
  cases p.isCommented <;> cases isEven (replacedText lines p) <;> simp

theorem competing_of_winning (h : p ∈ winning f lines proposed) :
    p ∈ competing f lines proposed ∧ p.fits lines.length = true := by
  obtain ⟨hMem, hFits⟩ := Patch.fits_of_mem_picked h
  exact ⟨Patch.mem_bottomUp.mp hMem, hFits⟩

theorem isAccepted_of_competing (h : p ∈ competing f lines proposed) :
    isAccepted lines p = true := by
  unfold competing at h
  rcases List.mem_append.mp h with hChosen | hMechanical
  · exact (List.mem_filter.mp hChosen).2
  · exact (List.mem_filter.mp hMechanical).2

/-- What is looked at when a patch is sifted is what it replaces. -/
theorem replacedText_of_placed {parts : List Stretch} {old : List Text} (hPlaced : Placed 1 parts)
    (hMem : .replaced p old ∈ parts) :
    replacedText (parts.flatMap Stretch.old) p = Text.unlines old := by
  obtain ⟨a, b, hText, hFirst, hLast, -⟩ := hPlaced.of_mem hMem
  have hFrom : max (p.first - 1) 0 = (a.length : Int) := by omega
  have hTo : p.last = ((a ++ old).length : Int) := by
    rw [List.length_append]
    omega
  have hPlace (k : Nat) (hk : k ≤ (a ++ old ++ b).length) :
      Offset.place (a ++ old ++ b).length (k : Int) = k := by
    rw [Offset.place, if_neg (by omega), Int.toNat_natCast, Nat.min_eq_left hk]
  rw [replacedText, hText, hFrom, hTo, Offset.slice, hPlace _ (by simp), hPlace _ (by simp),
    List.take_left, List.drop_left]

/-- **What the repair hides**: whatever the oracle proposes, as long as its answer can
be read, the script behind the repair is the script before it, except that some ranges
of lines, no two of which share a line, give way to comments. Each of these ranges
closes the braces and the parentheses that it opens. So what is kept is nested if the
script was. -/
theorem commentOutCalls_hides (hReply : Proposes (callsReply team s f script) proposed) :
    ∃ result s' parts, commentOutCalls team f script s = (.ok result, s') ∧
      parts.flatMap Stretch.old = Text.lines script ∧
      Text.lines result = parts.flatMap Stretch.new ∧
      Placed 1 parts ∧
      ((parts.filterMap Stretch.patch?).Pairwise fun p q => p.last < q.first) ∧
      (∀ p old, .replaced p old ∈ parts → isEven (Text.unlines old) = true ∧
        ∀ line ∈ p.newLines old, Text.startsWith ['/', '/'] (Text.trim line) = true) ∧
      (Nested '{' '}' script → Nested '{' '}' (Text.unlines (parts.flatMap Stretch.live))) ∧
      (Nested '(' ')' script → Nested '(' ')' (Text.unlines (parts.flatMap Stretch.live))) := by
  obtain ⟨s', parts, hRun, hOld, hPlaced, hPatches⟩ := commentOutCalls_stretches hReply
  have hHidden : ∀ p old, .replaced p old ∈ parts → isEven (Text.unlines old) = true ∧
      ∀ line ∈ p.newLines old, Text.startsWith ['/', '/'] (Text.trim line) = true := by
    intro p old hMem
    have hWins : p ∈ parts.filterMap Stretch.patch? := Patch.mem_patches_iff.mpr ⟨old, hMem⟩
    rw [hPatches, List.mem_reverse] at hWins
    obtain ⟨hCommented, hEven⟩ :=
      isAccepted_iff.mp (isAccepted_of_competing (competing_of_winning hWins).1)
    rw [← hOld, replacedText_of_placed hPlaced hMem] at hEven
    exact ⟨hEven, Patch.startsWith_of_isCommented hCommented⟩
  have hNested (o c : Char) (ho : o ≠ '\n') (hc : c ≠ '\n')
      (hEven : ∀ p old, .replaced p old ∈ parts →
        (Text.unlines old).count o = (Text.unlines old).count c)
      (h : Nested o c script) : Nested o c (Text.unlines (parts.flatMap Stretch.live)) := by
    rw [← Text.unlines_lines script, ← hOld, Script.nested_unlines_iff ho hc] at h
    rw [Script.nested_unlines_iff ho hc]
    refine Patch.nested_live (u := []) ?_ h
    intro p old hMem
    rw [← Text.count_unlines ho, ← Text.count_unlines hc]
    exact hEven p old hMem
  refine ⟨_, s', parts, hRun, hOld, Patch.lines_new hOld, hPlaced, hPlaced.disjoint.2, hHidden,
    ?_, ?_⟩
  · exact hNested '{' '}' (by decide) (by decide) fun p old hMem =>
      (Script.isEven_iff.mp (hHidden p old hMem).1).1
  · exact hNested '(' ')' (by decide) (by decide) fun p old hMem =>
      (Script.isEven_iff.mp (hHidden p old hMem).1).2

/-- The function `fn` of an object `p`. -/
def pFn : MissingFunction := ⟨"p".toList, "fn".toList⟩

/-- A call of it inside a block. -/
def guardedCall : Text := "if (ready) \x7b\n  p.fn();\n\x7d".toList

/-- A proposal for the line of the call, and one that ends before it begins. -/
def twoProposals : Text := (
  "[\x7b\"startLine\": 2, \"endLine\": 2, \"replacement\": \"// gone\"\x7d, " ++
  "\x7b\"startLine\": 3, \"endLine\": 1, \"replacement\": \"// none\"\x7d]").toList

theorem commentOutCalls_hides_guardedCall :
    Proposes (callsReply ⟨some fun _ _ => .answer twoProposals, none⟩ .initial pFn guardedCall)
        [⟨2, 2, "// gone".toList⟩, ⟨3, 1, "// none".toList⟩] ∧
      ∃ result s' parts, commentOutCalls ⟨some fun _ _ => .answer twoProposals, none⟩ pFn
          guardedCall .initial = (.ok result, s') ∧
        parts.flatMap Stretch.old = Text.lines guardedCall ∧
        Text.lines result = parts.flatMap Stretch.new ∧
        Placed 1 parts ∧
        ((parts.filterMap Stretch.patch?).Pairwise fun p q => p.last < q.first) ∧
        (∀ p old, .replaced p old ∈ parts → isEven (Text.unlines old) = true ∧
          ∀ line ∈ p.newLines old, Text.startsWith ['/', '/'] (Text.trim line) = true) ∧
        (Nested '{' '}' guardedCall →
          Nested '{' '}' (Text.unlines (parts.flatMap Stretch.live))) ∧
        (Nested '(' ')' guardedCall →
          Nested '(' ')' (Text.unlines (parts.flatMap Stretch.live))) := by
  have hRead : MissingFunctionContext.readAnswer twoProposals =
      .ok [⟨2, 2, "// gone".toList⟩, ⟨3, 1, "// none".toList⟩] := by
    have hOption : (MissingFunctionContext.readAnswer twoProposals).toOption =
        some [⟨2, 2, "// gone".toList⟩, ⟨3, 1, "// none".toList⟩] := by decide +kernel
    cases hAnswer : MissingFunctionContext.readAnswer twoProposals with
    | error e =>
      rw [hAnswer] at hOption
      simp [Except.toOption] at hOption
    | ok ps =>
      rw [hAnswer] at hOption
      simpa [Except.toOption] using hOption
  have hCalled : pFn.callLines (Text.lines guardedCall) ≠ [] := by decide +kernel
  have hReply : Proposes (callsReply ⟨some fun _ _ => .answer twoProposals, none⟩ .initial pFn
      guardedCall) [⟨2, 2, "// gone".toList⟩, ⟨3, 1, "// none".toList⟩] := by
    rw [callsReply, if_neg hCalled]
    exact .answer hRead
  exact ⟨hReply, commentOutCalls_hides hReply⟩

end Pass

end SketchRepair
