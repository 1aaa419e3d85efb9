import SketchRepair.Proofs.Repair.MissingFunction
import SketchRepair.Proofs.Script.Block
import SketchRepair.Proofs.Script.Call

/-!
# SketchRepair — calls that stay live

Every call of a missing function ought to be commented out with the block around it.
But the patches compete for the lines of the script, and what competes is settled
before it is known which patches get their lines. A call whose block closes what it
opens is lost in two ways: an accepted proposal touches its block, so that no patch is
made for it, and then misses the call or does not get its lines; or the patch for its
block gives way to the one for another call further down.

* `mechanicalPatch_competes` — every other block has a patch that competes;
* `staysLive_iff`, `commentOutCalls_live_iff` — exactly these calls stay live;
* `held_of_apart` — none does when blocks do not overlap and the oracle keeps out of it.
-/

namespace SketchRepair

namespace Pass

open Script (MissingFunction isEven)
open Patch (BlockPatch Stretch Placed picked bottomUp)

/-- The text of the block around the call on line `n`. -/
def blockText (lines : List Text) (n : Nat) : Text :=
  Text.unlines (Offset.slice (callBlock lines n).first ((callBlock lines n).last + 1) lines)

/-- The mechanical patch for the block around the call on line `n`. -/
def mechanicalPatch (f : MissingFunction) (lines : List Text) (n : Nat) : BlockPatch :=
  ⟨(callBlock lines n).first + 1, (callBlock lines n).last + 1,
    Script.commentOut lines (callBlock lines n) f.reference⟩

/-- How the call on line `n` stays live although its block closes what it opens. -/
inductive StaysLive (f : MissingFunction) (lines : List Text) (proposed : List BlockPatch)
    (n : Nat) : Prop where
  /-- No patch is made for the block, because an accepted proposal touches it; and no
  patch that gets its lines holds the call. -/
  | touched {p : BlockPatch} (hAccepted : p ∈ proposed.filter (isAccepted lines))
      (hTouches : (callBlock lines n).overlaps p.span = true)
      (hMissed : ∀ q ∈ winning f lines proposed, ¬ q.Holds n)
  /-- The patch for the block gives way to the one for another call, whose block begins
  inside this one; and no patch that gets its lines holds the call. -/
  | displaced {m : Nat} (hCall : m ∈ f.callLines lines)
      (hWins : mechanicalPatch f lines m ∈ winning f lines proposed)
      (hFrom : (callBlock lines n).first ≤ (callBlock lines m).first)
      (hTo : (callBlock lines m).first ≤ (callBlock lines n).last)
      (hMissed : ∀ q ∈ winning f lines proposed, ¬ q.Holds n)

variable {team : Collaborators} {f : MissingFunction} {script : Text} {lines : List Text}
  {s : Progress} {proposed : List BlockPatch} {p : BlockPatch} {n : Nat}

-- ---------------------------------------------------------------------------
-- The patch for a block
-- ---------------------------------------------------------------------------

theorem callBlock_bounds (hn : n ∈ f.callLines lines) :
    ∃ start stop : Nat, callBlock lines n = ⟨start, stop⟩ ∧ start + 1 ≤ n ∧ n ≤ stop + 1 ∧
      stop < lines.length := by
  obtain ⟨hFrom, line, hLine, -⟩ := Script.MissingFunction.mem_callLines.mp hn
  obtain ⟨hLength, -⟩ := List.getElem?_eq_some_iff.mp hLine
  obtain ⟨start, stop, hBlock, hStart, hStop, hEnd⟩ := Script.blockAround_bounds hLength
  exact ⟨start, stop, hBlock, by omega, by omega, hEnd⟩

theorem range_mechanicalPatch {start stop : Nat} (hBlock : callBlock lines n = ⟨start, stop⟩) :
    (mechanicalPatch f lines n).first = start + 1 ∧
      (mechanicalPatch f lines n).last = stop + 1 := by
  rw [mechanicalPatch, hBlock]
  exact ⟨rfl, rfl⟩

/-- The mechanical patch for the block around a call holds the call. -/
theorem holds_mechanicalPatch (hn : n ∈ f.callLines lines) :
    (mechanicalPatch f lines n).Holds n := by
  obtain ⟨start, stop, hBlock, hStart, hStop, -⟩ := callBlock_bounds hn
  obtain ⟨hFirst, hLast⟩ := range_mechanicalPatch (f := f) hBlock
  exact ⟨by omega, by omega⟩

/-- A mechanical patch is a comment, unless the name of the function breaks the line. -/
theorem isCommented_mechanicalPatch (hLines : ∀ l ∈ lines, '\n' ∉ l) (hName : '\n' ∉ f.reference) :
    (mechanicalPatch f lines n).isCommented = true := by
  generalize hHeader :
    "// ERROR: Block commented out due to missing function ".toList ++ f.reference = header
  generalize hBody : (Offset.slice (callBlock lines n).first ((callBlock lines n).last + 1)
    lines).map ("// ".toList ++ ·) = body
  have hSlashes : ∀ l ∈ header :: body, ['/', '/'] <+: l ∧ '\n' ∉ l := by
    intro l hl
    rcases List.mem_cons.mp hl with rfl | hMem
    · rw [← hHeader]
      refine ⟨⟨_, rfl⟩, ?_⟩
      exact fun hEither => (List.mem_append.mp hEither).elim (by decide) hName
    · rw [← hBody] at hMem
      obtain ⟨k, hk, rfl⟩ := List.mem_map.mp hMem
      have hLine : k ∈ lines := List.mem_of_mem_take (List.mem_of_mem_drop hk)
      refine ⟨⟨_, rfl⟩, ?_⟩
      exact fun hEither => (List.mem_append.mp hEither).elim (by decide) (hLines k hLine)
  have hReplacement : (mechanicalPatch f lines n).replacement = Text.unlines (header :: body) := by
    rw [mechanicalPatch, Script.commentOut, hHeader, hBody]
  rw [BlockPatch.isCommented, hReplacement,
    Text.lines_unlines (by simp) fun l hl => (hSlashes l hl).2, List.all_eq_true]
  intro l hl
  rw [Text.startsWith_iff]
  refine Text.isPrefix_trim ?_ (hSlashes l hl).1
  intro c hc
  rw [List.mem_pair, or_self] at hc
  rw [hc]
  rfl

theorem replacedText_mechanicalPatch (hn : n ∈ f.callLines lines) :
    replacedText lines (mechanicalPatch f lines n) = blockText lines n := by
  obtain ⟨start, stop, hBlock, -⟩ := callBlock_bounds hn
  have hFirst : max ((start : Int) + 1 - 1) 0 = start := by omega
  rw [replacedText, blockText, mechanicalPatch, hBlock]
  show Text.unlines (Offset.slice (max ((start : Int) + 1 - 1) 0) ((stop : Int) + 1) lines) = _
  rw [hFirst]

/-- The mechanical patch for a block that closes what it opens competes, unless an
accepted proposal touches the block. -/
theorem mechanicalPatch_competes (hLines : ∀ l ∈ lines, '\n' ∉ l) (hn : n ∈ f.callLines lines)
    (hEven : isEven (blockText lines n) = true)
    (hUntouched : ∀ p ∈ proposed.filter (isAccepted lines),
      ¬ (callBlock lines n).overlaps p.span = true) :
    mechanicalPatch f lines n ∈ competing f lines proposed := by
  obtain ⟨-, line, hLine, hCalled⟩ := Script.MissingFunction.mem_callLines.mp hn
  have hName : '\n' ∉ f.reference :=
    Script.MissingFunction.not_mem_reference (hLines line (List.mem_of_getElem? hLine)) hCalled
  have hAccepted : isAccepted lines (mechanicalPatch f lines n) = true := by
    rw [isAccepted_iff, replacedText_mechanicalPatch hn]
    exact ⟨isCommented_mechanicalPatch hLines hName, hEven⟩
  have hBlock : callBlock lines n ∈ untouched f lines (proposed.filter (isAccepted lines)) := by
    refine List.mem_filter.mpr ⟨List.mem_map_of_mem hn, ?_⟩
    rw [Bool.not_eq_true', List.any_eq_false]
    exact hUntouched
  unfold competing
  refine List.mem_append_right _ (List.mem_filter.mpr ⟨?_, hAccepted⟩)
  exact List.mem_map.mpr ⟨callBlock lines n, hBlock, rfl⟩

-- ---------------------------------------------------------------------------
-- The competition
-- ---------------------------------------------------------------------------

/-- A competing patch is an accepted proposal, or made for the block around a call. -/
theorem competing_cases (h : p ∈ competing f lines proposed) :
    p ∈ proposed.filter (isAccepted lines) ∨
      ∃ m ∈ f.callLines lines, p = mechanicalPatch f lines m := by
  unfold competing at h
  rcases List.mem_append.mp h with hChosen | hMechanical
  · exact .inl hChosen
  · obtain ⟨block, hBlock, rfl⟩ := List.mem_map.mp (List.mem_filter.mp hMechanical).1
    obtain ⟨m, hm, rfl⟩ := List.mem_map.mp (List.mem_filter.mp hBlock).1
    exact .inr ⟨m, hm, rfl⟩

/-- A call whose block closes what it opens is held by a patch that gets its lines,
or stays live in one of two ways. -/
theorem staysLive_iff (hLines : ∀ l ∈ lines, '\n' ∉ l) (hn : n ∈ f.callLines lines)
    (hEven : isEven (blockText lines n) = true) :
    StaysLive f lines proposed n ↔
      ∀ q ∈ winning f lines proposed, ¬ q.Holds n := by
  constructor
  · intro h
    cases h with
    | touched _ _ hMissed => exact hMissed
    | displaced _ _ _ _ hMissed => exact hMissed
  · intro hMissed
    by_cases hTouched : ∃ p ∈ proposed.filter (isAccepted lines),
        (callBlock lines n).overlaps p.span = true
    · obtain ⟨p, hAccepted, hTouches⟩ := hTouched
      exact .touched hAccepted hTouches hMissed
    · have hUntouched : ∀ p ∈ proposed.filter (isAccepted lines),
          ¬ (callBlock lines n).overlaps p.span = true :=
        fun p hp hTouches => hTouched ⟨p, hp, hTouches⟩
      obtain ⟨start, stop, hBlock, hStart, hStop, hEnd⟩ := callBlock_bounds hn
      have hCompetes := mechanicalPatch_competes hLines hn hEven hUntouched
      obtain ⟨hFirst, hLast⟩ := range_mechanicalPatch (f := f) hBlock
      have hFits : (mechanicalPatch f lines n).fits lines.length = true := by
        rw [Patch.fits_iff, hFirst, hLast]
        omega
      rcases Patch.picked_or_overlapped (Patch.bottomUp_sorted _)
          (Patch.mem_bottomUp.mpr hCompetes) hFits with hWins | ⟨q, hWins, hFrom, hTo⟩
      · -- its own patch holds the call
        exact absurd (holds_mechanicalPatch hn) (hMissed _ hWins)
      · obtain ⟨hCompeting, hInside⟩ := competing_of_winning hWins
        have hRange := Patch.fits_iff.mp hInside
        rw [hFirst] at hFrom
        rw [hLast] at hTo
        rcases competing_cases hCompeting with hAccepted | ⟨m, hm, rfl⟩
        · refine absurd ?_ (hUntouched q hAccepted)
          rw [Patch.overlaps_iff, hBlock, BlockPatch.span]
          constructor
          · show (start : Int) ≤ q.last - 1
            omega
          · show q.first - 1 ≤ (stop : Int)
            omega
        · have hBegins : (mechanicalPatch f lines m).first = (callBlock lines m).first + 1 := rfl
          refine .displaced hm hWins ?_ ?_ hMissed
          · rw [hBlock]
            show (start : Int) ≤ _
            omega
          · rw [hBlock]
            show _ ≤ (stop : Int)
            omega

/-- No call stays live when no proposal is accepted and blocks around calls that share
a line are the same. -/
theorem held_of_apart (hLines : ∀ l ∈ lines, '\n' ∉ l)
    (hNone : proposed.filter (isAccepted lines) = [])
    (hApart : ∀ m ∈ f.callLines lines, ∀ k ∈ f.callLines lines,
      (callBlock lines m).overlaps (callBlock lines k) = true →
        callBlock lines m = callBlock lines k)
    (hn : n ∈ f.callLines lines) (hEven : isEven (blockText lines n) = true) :
    ∃ q ∈ winning f lines proposed, q.Holds n := by
  by_contra hNot
  have hLive : StaysLive f lines proposed n :=
    (staysLive_iff hLines hn hEven).mpr fun q hq hHolds => hNot ⟨q, hq, hHolds⟩
  cases hLive with
  | touched hAccepted =>
    rw [hNone] at hAccepted
    simp at hAccepted
  | @displaced m hCall hWins hFrom hTo hMissed =>
    obtain ⟨start, stop, hBlock, hStart, hStop, -⟩ := callBlock_bounds hCall
    have hShared : (callBlock lines m).overlaps (callBlock lines n) = true := by
      refine Patch.overlaps_iff.mpr ⟨hTo, Int.le_trans hFrom ?_⟩
      rw [hBlock]
      show (start : Int) ≤ stop
      omega
    -- a block that is the same has the same patch
    have hSame : mechanicalPatch f lines m = mechanicalPatch f lines n := by
      rw [mechanicalPatch, hApart m hCall n hn hShared, ← mechanicalPatch]
    rw [hSame] at hWins
    exact hMissed _ hWins (holds_mechanicalPatch hn)

/-- **Which calls stay live**: a call whose block closes what it opens is outside all
ranges that give way to comments exactly if an accepted proposal touches its block
without any patch holding the call, or the patch for its block is displaced by the one
for another call without any patch holding the call. -/
theorem commentOutCalls_live_iff (hReply : Proposes (callsReply team s f script) proposed) :
    ∃ result s' parts, commentOutCalls team f script s = (.ok result, s') ∧
      parts.flatMap Stretch.old = Text.lines script ∧
      Text.lines result = parts.flatMap Stretch.new ∧
      Placed 1 parts ∧
      ∀ n ∈ f.callLines (Text.lines script), isEven (blockText (Text.lines script) n) = true →
        ((∀ p old, .replaced p old ∈ parts → ¬ p.Holds n) ↔
          StaysLive f (Text.lines script) proposed n) := by
  obtain ⟨s', parts, hRun, hOld, hPlaced, hPatches⟩ := commentOutCalls_stretches hReply
  refine ⟨_, s', parts, hRun, hOld, Patch.lines_new hOld, hPlaced, ?_⟩
  intro n hn hEven
  rw [staysLive_iff Text.not_mem_of_mem_lines hn hEven]
  have hWinning (q : BlockPatch) : q ∈ winning f (Text.lines script) proposed ↔
      ∃ old, .replaced q old ∈ parts := by
    rw [← Patch.mem_patches_iff, hPatches, List.mem_reverse]
  constructor
  · intro hLive q hq
    obtain ⟨old, hMem⟩ := (hWinning q).mp hq
    exact hLive q old hMem
  · intro hMissed p old hMem
    exact hMissed p ((hWinning p).mpr ⟨old, hMem⟩)

/-- A call in the head of a block that holds another call. -/
def nestedCalls : Text := "if (p.fn()) \x7b\n  y;\n  p.fn();\n\x7d".toList

/-- The patch for the inner call gets its line, and the one for the outer call, whose
block is the whole script, is dropped. -/
theorem winning_nestedCalls : winning pFn (Text.lines nestedCalls) [] =
    [mechanicalPatch pFn (Text.lines nestedCalls) 3] := by
  have hCompeting : competing pFn (Text.lines nestedCalls) [] =
      [mechanicalPatch pFn (Text.lines nestedCalls) 1,
        mechanicalPatch pFn (Text.lines nestedCalls) 3] := by decide +kernel
  have hOrder : bottomUp (competing pFn (Text.lines nestedCalls) []) =
      [mechanicalPatch pFn (Text.lines nestedCalls) 3,
        mechanicalPatch pFn (Text.lines nestedCalls) 1] := by
    refine mergeSort_eq_reverse (fun p => p.first) (fun _ _ => decide_eq_true_iff)
      (List.Perm.of_eq hCompeting) ?_
    simp only [List.pairwise_pair]
    decide +kernel
  rw [winning, hOrder]
  decide +kernel

/-- The outer one of two nested calls stays live. -/
theorem commentOutCalls_live_nestedCalls :
    Proposes (callsReply ⟨none, none⟩ .initial pFn nestedCalls) [] ∧
      1 ∈ pFn.callLines (Text.lines nestedCalls) ∧
      isEven (blockText (Text.lines nestedCalls) 1) = true ∧
      ∃ result s' parts,
        commentOutCalls ⟨none, none⟩ pFn nestedCalls .initial = (.ok result, s') ∧
        parts.flatMap Stretch.old = Text.lines nestedCalls ∧
        Text.lines result = parts.flatMap Stretch.new ∧
        Placed 1 parts ∧
        ∀ p old, .replaced p old ∈ parts → ¬ p.Holds 1 := by
  have hCalled : pFn.callLines (Text.lines nestedCalls) ≠ [] := by decide +kernel
  have hReply : Proposes (callsReply ⟨none, none⟩ .initial pFn nestedCalls) [] := by
    rw [callsReply, if_neg hCalled]
    exact .alone
  have hCall : 1 ∈ pFn.callLines (Text.lines nestedCalls) := by decide +kernel
  have hEven : isEven (blockText (Text.lines nestedCalls) 1) = true := by decide +kernel
  have hLive : StaysLive pFn (Text.lines nestedCalls) [] 1 := by
    refine .displaced (m := 3) (by decide +kernel) ?_ (by decide +kernel) (by decide +kernel) ?_
    · rw [winning_nestedCalls]
      exact List.mem_singleton_self _
    · rw [winning_nestedCalls]
      decide +kernel
  obtain ⟨result, s', parts, hRun, hOld, hNew, hPlaced, hCalls⟩ := commentOutCalls_live_iff hReply
  exact ⟨hReply, hCall, hEven, result, s', parts, hRun, hOld, hNew, hPlaced,
    (hCalls 1 hCall hEven).mpr hLive⟩

end Pass

end SketchRepair
