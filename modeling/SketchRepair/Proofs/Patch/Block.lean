import SketchRepair.Patch.Block
import SketchRepair.Proofs.Descending
import SketchRepair.Proofs.Script.Nesting
import SketchRepair.Proofs.Text.Blank

/-!
# SketchRepair — what block patches do to a script

Patches are applied one after the other to lines that have changed under the patches
before them. Nevertheless the outcome can be told from the script as it was. It comes
apart into stretches: lines that are kept, and ranges of lines that a patch replaces,
each at the line numbers that its patch names. That holds because patches further
down go first: the lines above all ranges replaced so far are still the old ones, and
a patch is applied exactly if its range lies among them.

* `Placed.of_mem`, `Placed.disjoint` — a patch of the outcome replaces the lines it
  names, and no other patch touches them;
* `nested_live` — what is kept is nested if what is replaced is even;
* `picked_or_overlapped` — a patch is left out for the sake of another one only;
* `Reached.applies_iff` — which patch is applied, without looking at ranges or at
  lines that have changed;
* `applyBlockPatches_spec` — the script after all patches, by stretches.
-/

namespace SketchRepair

namespace Patch

open Script (Span)

/-- The lines that a patch puts in the place of `old`. -/
def BlockPatch.newLines (p : BlockPatch) (old : List Text) : List Text :=
  (Text.lines p.replacement).map (Text.indentation (old.headD []) ++ ·)

/-- A stretch of a script: a line that is kept, or lines that a patch replaces. -/
inductive Stretch where
  | kept (line : Text)
  | replaced (p : BlockPatch) (old : List Text)

namespace Stretch

/-- The lines before the patches. -/
def old : Stretch → List Text
  | kept line => [line]
  | replaced _ old => old

/-- The lines behind the patches. -/
def new : Stretch → List Text
  | kept line => [line]
  | replaced p old => p.newLines old

/-- The lines that are kept. -/
def live : Stretch → List Text
  | kept line => [line]
  | replaced _ _ => []

/-- The patch, if there is one. -/
def patch? : Stretch → Option BlockPatch
  | kept _ => none
  | replaced p _ => some p

end Stretch

/-- Stretches from the line `n` on, counted from one: every patch stands at the lines
that it names. -/
inductive Placed : (n : Int) → List Stretch → Prop where
  | nil {n : Int} : Placed n []
  | kept {n : Int} {line : Text} {rest : List Stretch} (hRest : Placed (n + 1) rest) :
      Placed n (.kept line :: rest)
  | replaced {n : Int} {p : BlockPatch} {old : List Text} {rest : List Stretch}
      (hFirst : p.first = n) (hLast : p.last + 1 = n + old.length) (hOld : old ≠ [])
      (hRest : Placed (p.last + 1) rest) : Placed n (.replaced p old :: rest)

/-- Does the range of the patch lie within the first `n` lines? -/
def BlockPatch.fits (n : Int) (p : BlockPatch) : Bool :=
  1 ≤ p.first && p.first ≤ p.last && p.last ≤ n

/-- The range of the patch holds the line `n`, counted from one. -/
def BlockPatch.Holds (p : BlockPatch) (n : Nat) : Prop := p.first ≤ n ∧ n ≤ p.last

instance (p : BlockPatch) (n : Nat) : Decidable (p.Holds n) :=
  inferInstanceAs (Decidable (p.first ≤ n ∧ n ≤ p.last))

/-- Of patches in the order in which they come, those that fit within the first `n`
lines and above all taken before. -/
def picked : (n : Int) → List BlockPatch → List BlockPatch
  | _, [] => []
  | n, p :: ps => if p.fits n then p :: picked (p.first - 1) ps else picked n ps

/-- Patches in the order in which they are applied. -/
def bottomUp (ps : List BlockPatch) : List BlockPatch :=
  ps.mergeSort fun a b => b.first ≤ a.first

-- ---------------------------------------------------------------------------
-- Stretches
-- ---------------------------------------------------------------------------

@[simp] theorem flatMap_old_kept (ls : List Text) : (ls.map .kept).flatMap Stretch.old = ls := by
  simp [List.flatMap_map, Stretch.old]

@[simp] theorem flatMap_new_kept (ls : List Text) : (ls.map .kept).flatMap Stretch.new = ls := by
  simp [List.flatMap_map, Stretch.new]

@[simp] theorem filterMap_patch_kept (ls : List Text) :
    (ls.map .kept).filterMap Stretch.patch? = [] := by
  simp [List.filterMap_map, Function.comp_def, Stretch.patch?]

theorem fits_iff {n : Int} {p : BlockPatch} :
    p.fits n = true ↔ 1 ≤ p.first ∧ p.first ≤ p.last ∧ p.last ≤ n := by
  rw [BlockPatch.fits, Bool.and_eq_true, Bool.and_eq_true, decide_eq_true_eq, decide_eq_true_eq,
    decide_eq_true_eq, and_assoc]

theorem overlaps_iff {s t : Span} :
    s.overlaps t = true ↔ s.first ≤ t.last ∧ t.first ≤ s.last := by
  rw [Span.overlaps, Bool.and_eq_true, decide_eq_true_eq, decide_eq_true_eq]

variable {n : Int} {p : BlockPatch} {old top lines : List Text} {parts : List Stretch}
  {taken : List Span}

theorem Placed.keep (h : Placed (n + lines.length) parts) :
    Placed n (lines.map .kept ++ parts) := by
  induction lines generalizing n with
  | nil =>
    rw [List.length_nil] at h
    simpa using h
  | cons l ls ih =>
    rw [List.map_cons, List.cons_append]
    refine .kept (ih ?_)
    have hNext : n + ((l :: ls).length : Int) = n + 1 + ls.length := by
      rw [List.length_cons]
      omega
    rwa [hNext] at h

/-- A patch replaces the lines that it names. -/
theorem Placed.of_mem (h : Placed n parts) (hMem : .replaced p old ∈ parts) :
    ∃ a b, parts.flatMap Stretch.old = a ++ old ++ b ∧ p.first = n + a.length ∧
      p.last + 1 = p.first + old.length ∧ old ≠ [] := by
  induction h with
  | nil => simp at hMem
  | @kept n line rest _ ih =>
    rcases List.mem_cons.mp hMem with hHere | hLater
    · simp at hHere
    · obtain ⟨a, b, hText, hFirst, hRange⟩ := ih hLater
      refine ⟨line :: a, b, ?_, ?_, hRange⟩
      · rw [List.flatMap_cons, hText]
        simp [Stretch.old]
      · rw [hFirst, List.length_cons]
        omega
  | @replaced n q gone rest hFirst hLast hGone _ ih =>
    rcases List.mem_cons.mp hMem with hHere | hLater
    · rw [Stretch.replaced.injEq] at hHere
      obtain ⟨rfl, rfl⟩ := hHere
      refine ⟨[], rest.flatMap Stretch.old, ?_, ?_, ?_, hGone⟩
      · rw [List.flatMap_cons]
        simp [Stretch.old]
      · simpa using hFirst
      · omega
    · obtain ⟨a, b, hText, hAt, hRange⟩ := ih hLater
      refine ⟨gone ++ a, b, ?_, ?_, hRange⟩
      · rw [List.flatMap_cons, hText]
        simp [Stretch.old]
      · rw [hAt, List.length_append]
        omega

/-- No patch reaches below the first line of one that stands further down. -/
theorem Placed.disjoint (h : Placed n parts) :
    (∀ p ∈ parts.filterMap Stretch.patch?, n ≤ p.first) ∧
      (parts.filterMap Stretch.patch?).Pairwise fun p q => p.last < q.first := by
  induction h with
  | nil => simp
  | kept _ ih =>
    rw [List.filterMap_cons, Stretch.patch?]
    refine ⟨?_, ih.2⟩
    intro p hp
    have := ih.1 p hp
    omega
  | replaced hFirst hLast hOld _ ih =>
    have hLength := List.length_pos_iff.mpr hOld
    rw [List.filterMap_cons, Stretch.patch?]
    refine ⟨?_, List.pairwise_cons.mpr ⟨?_, ih.2⟩⟩
    · intro q hq
      rcases List.mem_cons.mp hq with rfl | hLater
      · omega
      · have := ih.1 q hLater
        omega
    · intro q hq
      have := ih.1 q hq
      omega

theorem mem_patches_iff : p ∈ parts.filterMap Stretch.patch? ↔ ∃ old, .replaced p old ∈ parts := by
  rw [List.mem_filterMap]
  constructor
  · rintro ⟨x, hx, hPatch⟩
    cases x with
    | kept line => simp [Stretch.patch?] at hPatch
    | replaced q old =>
      rw [Stretch.patch?, Option.some.injEq] at hPatch
      exact ⟨old, hPatch ▸ hx⟩
  · rintro ⟨old, hMem⟩
    exact ⟨.replaced p old, hMem, rfl⟩

/-- What is kept of a script is nested when the script is, if every range that is
replaced opens as often as it closes. -/
theorem nested_live {o c : Char} {u : Text} (hEven : ∀ p old, .replaced p old ∈ parts →
      old.flatten.count o = old.flatten.count c)
    (h : Script.Nested o c (u ++ (parts.flatMap Stretch.old).flatten)) :
    Script.Nested o c (u ++ (parts.flatMap Stretch.live).flatten) := by
  induction parts generalizing u with
  | nil => exact h
  | cons x rest ih =>
    have hRest : ∀ p old, .replaced p old ∈ rest → old.flatten.count o = old.flatten.count c :=
      fun p old hMem => hEven p old (List.mem_cons_of_mem _ hMem)
    rw [List.flatMap_cons, List.flatten_append, ← List.append_assoc] at h ⊢
    cases x with
    | kept line => exact ih hRest h
    | replaced p old =>
      have hGone := h.remove (hEven p old (List.mem_cons_self ..))
      simpa [Stretch.live] using ih hRest hGone

/-- The lines behind the patches are the lines of the text they are joined to. -/
theorem lines_new {script : Text} (hOld : parts.flatMap Stretch.old = Text.lines script) :
    Text.lines (Text.unlines (parts.flatMap Stretch.new)) = parts.flatMap Stretch.new := by
  have hBreak : ∀ x ∈ parts, ∀ l ∈ x.old, '\n' ∉ l := by
    intro x hx l hl
    refine Text.not_mem_of_mem_lines (t := script) l ?_
    rw [← hOld]
    exact List.mem_flatMap.mpr ⟨x, hx, hl⟩
  refine Text.lines_unlines ?_ ?_
  · -- there is a line before the patches, so there is a stretch, and every stretch has lines
    intro hNil
    cases parts with
    | nil => exact Text.lines_ne_nil script hOld.symm
    | cons x rest =>
      rw [List.flatMap_cons, List.append_eq_nil_iff] at hNil
      cases x with
      | kept line => simp [Stretch.new] at hNil
      | replaced p old =>
        have hLines : Text.lines p.replacement = [] := by
          simpa [Stretch.new, BlockPatch.newLines] using hNil.1
        exact Text.lines_ne_nil _ hLines
  · intro l hl
    obtain ⟨x, hx, hMem⟩ := List.mem_flatMap.mp hl
    cases x with
    | kept line => exact hBreak _ hx l hMem
    | replaced p old =>
      obtain ⟨k, hk, rfl⟩ := List.mem_map.mp hMem
      have hIndent : '\n' ∉ Text.indentation (old.headD []) := by
        intro hBlank
        have hHead := (List.takeWhile_prefix _).subset hBlank
        cases old with
        | nil => simp at hHead
        | cons m ms => exact hBreak _ hx m (List.mem_cons_self ..) hHead
      exact fun hEither => (List.mem_append.mp hEither).elim hIndent
        (Text.not_mem_of_mem_lines k hk)

theorem startsWith_of_isCommented (h : p.isCommented = true) :
    ∀ line ∈ p.newLines old, Text.startsWith ['/', '/'] (Text.trim line) = true := by
  intro line hLine
  obtain ⟨l, hl, rfl⟩ := List.mem_map.mp hLine
  rw [Text.trim_indentation_append]
  exact List.all_eq_true.mp h l hl

-- ---------------------------------------------------------------------------
-- The patches that are picked
-- ---------------------------------------------------------------------------

theorem fits_of_mem_picked {ps : List BlockPatch} (h : p ∈ picked n ps) :
    p ∈ ps ∧ p.fits n = true := by
  induction ps generalizing n with
  | nil => simp [picked] at h
  | cons q ps ih =>
    rw [picked] at h
    split at h
    · next hFits =>
      rcases List.mem_cons.mp h with rfl | hLater
      · exact ⟨List.mem_cons_self .., hFits⟩
      · obtain ⟨hMem, hAbove⟩ := ih hLater
        rw [fits_iff] at hFits hAbove
        exact ⟨List.mem_cons_of_mem _ hMem, fits_iff.mpr (by omega)⟩
    · obtain ⟨hMem, hAbove⟩ := ih h
      exact ⟨List.mem_cons_of_mem _ hMem, hAbove⟩

/-- A patch that fits is picked, unless one that is picked begins in its range. -/
theorem picked_or_overlapped {ps : List BlockPatch}
    (hSorted : ps.Pairwise fun a b => b.first ≤ a.first) (hMem : p ∈ ps)
    (hFits : p.fits n = true) :
    p ∈ picked n ps ∨ ∃ q ∈ picked n ps, p.first ≤ q.first ∧ q.first ≤ p.last := by
  induction ps generalizing n with
  | nil => simp at hMem
  | cons q ps ih =>
    rw [List.pairwise_cons] at hSorted
    rw [picked]
    rcases List.mem_cons.mp hMem with rfl | hLater
    · rw [if_pos hFits]
      exact .inl (List.mem_cons_self ..)
    · split
      · by_cases hBelow : q.first ≤ p.last
        · exact .inr ⟨q, List.mem_cons_self .., hSorted.1 p hLater, hBelow⟩
        · rw [fits_iff] at hFits
          have hAbove : p.fits (q.first - 1) = true := fits_iff.mpr (by omega)
          rcases ih hSorted.2 hLater hAbove with hPicked | ⟨r, hr, hRange⟩
          · exact .inl (List.mem_cons_of_mem _ hPicked)
          · exact .inr ⟨r, List.mem_cons_of_mem _ hr, hRange⟩
      · exact ih hSorted.2 hLater hFits

theorem bottomUp_sorted (ps : List BlockPatch) :
    (bottomUp ps).Pairwise fun a b => b.first ≤ a.first :=
  mergeSort_pairwise_desc (fun p => p.first) (fun _ _ => decide_eq_true_iff) ps

theorem mem_bottomUp {ps : List BlockPatch} : p ∈ bottomUp ps ↔ p ∈ ps :=
  (List.mergeSort_perm ps _).mem_iff

-- ---------------------------------------------------------------------------
-- The state between two patches
-- ---------------------------------------------------------------------------

/-- What has been reached when the ranges `taken` are replaced: the lines `top` are
still the old ones, and what stands below them comes apart into stretches, the first
of which is the range taken last. -/
structure Reached (taken : List Span) (top : List Text) (parts : List Stretch) : Prop where
  /-- The stretches stand behind the untouched lines. -/
  placed : Placed (top.length + 1) parts
  /-- No untouched line is in a range that is taken. -/
  beyond : ∀ s ∈ taken, (top.length : Int) ≤ s.first
  /-- The range taken last begins behind the untouched lines. -/
  lowest : (taken = [] ∧ parts = []) ∨ ∃ s ∈ taken, s.first = top.length ∧ s.first ≤ s.last

/-- A patch that begins no further down than those before it is applied exactly if
it fits into the untouched lines. -/
theorem Reached.applies_iff (h : Reached taken top parts)
    (hOrder : taken = [] ∨ p.first ≤ top.length + 1) :
    ((1 ≤ p.first ∧ p.first ≤ p.last ∧
          p.last ≤ ((top ++ parts.flatMap Stretch.new).length : Int)) ∧
        (!(taken.any fun s => p.span.overlaps s)) = true) ↔ p.fits top.length = true := by
  rw [fits_iff, List.length_append]
  constructor
  · rintro ⟨⟨hFirst, hRange, hLast⟩, hFree⟩
    refine ⟨hFirst, hRange, ?_⟩
    rcases h.lowest with ⟨rfl, rfl⟩ | ⟨s, hs, hAt, hNonempty⟩
    · simpa using hLast
    · rcases hOrder with rfl | hOrder
      · simp at hs
      · -- a patch that reaches below the untouched lines meets the range taken last
        have hApart : ¬ (p.first - 1 ≤ s.last ∧ s.first ≤ p.last - 1) := by
          intro hMeet
          rw [Bool.not_eq_true', List.any_eq_false] at hFree
          exact hFree s hs (overlaps_iff.mpr hMeet)
        omega
  · rintro ⟨hFirst, hRange, hLast⟩
    refine ⟨⟨hFirst, hRange, by omega⟩, ?_⟩
    rw [Bool.not_eq_true', List.any_eq_false]
    intro s hs hMeet
    have hBeyond := h.beyond s hs
    have hEnd : s.first ≤ p.last - 1 := (overlaps_iff.mp hMeet).2
    omega

/-- The lines that a patch which fits replaces. -/
def BlockPatch.oldLines (p : BlockPatch) (lines : List Text) : List Text :=
  (lines.take p.last.toNat).drop (p.first - 1).toNat

theorem take_oldLines_drop (hFits : p.fits top.length = true) :
    top = top.take (p.first - 1).toNat ++ p.oldLines top ++ top.drop p.last.toNat := by
  rw [fits_iff] at hFits
  have hTake : (top.take p.last.toNat).take (p.first - 1).toNat = top.take (p.first - 1).toNat := by
    rw [List.take_take, Nat.min_eq_left (by omega)]
  rw [← hTake, BlockPatch.oldLines, List.take_append_drop, List.take_append_drop]

theorem length_oldLines (hFits : p.fits top.length = true) :
    ((p.oldLines top).length : Int) = p.last - p.first + 1 := by
  rw [fits_iff] at hFits
  rw [BlockPatch.oldLines, List.length_drop, List.length_take]
  omega

/-- Replacing the range of a patch that fits leaves everything else as it is. -/
theorem replaceRange_eq (hFits : p.fits top.length = true) (rest : List Text) :
    replaceRange (top ++ rest) p = top.take (p.first - 1).toNat ++
      (p.newLines (p.oldLines top) ++ (top.drop p.last.toNat ++ rest)) := by
  have hRange := fits_iff.mp hFits
  have hLength := length_oldLines hFits
  have hAt : (p.first - 1).toNat < top.length := by omega
  have hTo : (p.first - 1).toNat < p.last.toNat := by omega
  have hHead : (top ++ rest).getD (p.first - 1).toNat [] = (p.oldLines top).headD [] := by
    rw [BlockPatch.oldLines, List.headD_eq_head?_getD, List.head?_drop, List.getD_eq_getElem?_getD,
      List.getElem?_append_left hAt, List.getElem?_take_of_lt hTo]
  rw [replaceRange, BlockPatch.newLines, ← hHead]
  show (top ++ rest).take (p.first - 1).toNat ++ _ ++ (top ++ rest).drop p.last.toNat = _
  rw [List.take_append_of_le_length (by omega), List.drop_append_of_le_length (by omega),
    List.append_assoc]
  rfl

/-- Behind a patch that fits, the lines above its range are the untouched ones. -/
theorem Reached.replace (h : Reached taken top parts) (hFits : p.fits top.length = true) :
    Reached (taken ++ [p.span]) (top.take (p.first - 1).toNat)
      (.replaced p (p.oldLines top) :: ((top.drop p.last.toNat).map .kept ++ parts)) := by
  have hRange := fits_iff.mp hFits
  have hLength := length_oldLines hFits
  have hTop : ((top.take (p.first - 1).toNat).length : Int) = p.first - 1 := by
    rw [List.length_take]
    omega
  refine ⟨?_, ?_, ?_⟩
  · refine .replaced (by omega) (by omega) ?_ (.keep ?_)
    · intro hNil
      rw [hNil, List.length_nil] at hLength
      omega
    · have hNext : p.last + 1 + ((top.drop p.last.toNat).length : Int) = top.length + 1 := by
        rw [List.length_drop]
        omega
      rw [hNext]
      exact h.placed
  · intro s hs
    rcases List.mem_append.mp hs with hs' | hs'
    · have := h.beyond s hs'
      omega
    · rw [List.mem_singleton.mp hs', BlockPatch.span]
      exact Int.le_of_eq hTop
  · refine .inr ⟨p.span, by simp, ?_, ?_⟩
    · rw [BlockPatch.span]
      exact hTop.symm
    · rw [BlockPatch.span]
      show p.first - 1 ≤ p.last - 1
      omega

-- ---------------------------------------------------------------------------
-- All patches
-- ---------------------------------------------------------------------------

/-- Patches in their order, from a state that has been reached on. -/
theorem Reached.applyInOrder_eq (ps : List BlockPatch) : ∀ {taken : List Span} {top : List Text}
    {parts : List Stretch}, Reached taken top parts →
      ps.Pairwise (fun a b => b.first ≤ a.first) →
      (taken = [] ∨ ∀ p ∈ ps, p.first ≤ top.length + 1) →
      ∃ done, done.flatMap Stretch.old = top ++ parts.flatMap Stretch.old ∧ Placed 1 done ∧
        done.filterMap Stretch.patch? =
          (picked top.length ps).reverse ++ parts.filterMap Stretch.patch? ∧
        applyInOrder taken (top ++ parts.flatMap Stretch.new) ps =
          (done.flatMap Stretch.new, picked top.length ps) := by
  induction ps with
  | nil =>
    intro taken top parts h _ _
    -- the untouched lines are kept
    refine ⟨top.map .kept ++ parts, ?_, ?_, ?_, ?_⟩
    · rw [List.flatMap_append, flatMap_old_kept]
    · refine .keep ?_
      rw [Int.add_comm]
      exact h.placed
    · rw [List.filterMap_append, filterMap_patch_kept]
      rfl
    · rw [List.flatMap_append, flatMap_new_kept]
      rfl
  | cons p ps ih =>
    intro taken top parts h hSorted hOrder
    rw [List.pairwise_cons] at hSorted
    have hOrderHere : taken = [] ∨ p.first ≤ top.length + 1 :=
      hOrder.imp_right fun hAll => hAll p (List.mem_cons_self ..)
    rw [applyInOrder, picked]
    by_cases hFits : p.fits top.length = true
    · have hRange := fits_iff.mp hFits
      have hTop : ((top.take (p.first - 1).toNat).length : Int) = p.first - 1 := by
        rw [List.length_take]
        omega
      obtain ⟨done, hOld, hPlaced, hPatches, hDone⟩ := ih (h.replace hFits) hSorted.2
        (.inr fun q hq => by
          have := hSorted.1 q hq
          omega)
      rw [if_pos ((h.applies_iff hOrderHere).mpr hFits), if_pos hFits]
      rw [hTop] at hPatches hDone
      refine ⟨done, ?_, hPlaced, ?_, ?_⟩
      · rw [hOld, List.flatMap_cons, List.flatMap_append, flatMap_old_kept, Stretch.old]
        conv => rhs; rw [take_oldLines_drop hFits]
        simp only [List.append_assoc]
      · rw [hPatches, List.filterMap_cons, List.filterMap_append, filterMap_patch_kept]
        simp [Stretch.patch?]
      · have hLines : replaceRange (top ++ parts.flatMap Stretch.new) p =
            top.take (p.first - 1).toNat ++ (Stretch.replaced p (p.oldLines top) ::
              ((top.drop p.last.toNat).map .kept ++ parts)).flatMap Stretch.new := by
          rw [replaceRange_eq hFits, List.flatMap_cons, List.flatMap_append, flatMap_new_kept]
          rfl
        rw [hLines, hDone]
    · rw [if_neg (fun hApplies => hFits ((h.applies_iff hOrderHere).mp hApplies)), if_neg hFits]
      exact ih h hSorted.2 (hOrder.imp_right fun hAll q hq => hAll q (List.mem_cons_of_mem _ hq))

/-- Block patches take the script to one that differs in the ranges of those that
are picked, at the line numbers of the script as it was. -/
theorem applyBlockPatches_spec (script : Text) (ps : List BlockPatch) :
    ∃ parts, parts.flatMap Stretch.old = Text.lines script ∧ Placed 1 parts ∧
      parts.filterMap Stretch.patch? =
        (picked (Text.lines script).length (bottomUp ps)).reverse ∧
      applyBlockPatches script ps = (Text.unlines (parts.flatMap Stretch.new),
        picked (Text.lines script).length (bottomUp ps)) := by
  have hStart : Reached [] (Text.lines script) [] :=
    ⟨.nil, by simp, .inl ⟨rfl, rfl⟩⟩
  obtain ⟨parts, hOld, hPlaced, hPatches, hDone⟩ :=
    hStart.applyInOrder_eq (bottomUp ps) (bottomUp_sorted ps) (.inl rfl)
  refine ⟨parts, ?_, hPlaced, ?_, ?_⟩
  · simpa using hOld
  · simpa using hPatches
  · rw [List.flatMap_nil, List.append_nil] at hDone
    rw [applyBlockPatches]
    show (Text.unlines (applyInOrder [] (Text.lines script) (bottomUp ps)).1,
      (applyInOrder [] (Text.lines script) (bottomUp ps)).2) = _
    rw [hDone]

theorem applyBlockPatches_nil (script : Text) : (applyBlockPatches script []).1 = script := by
  rw [applyBlockPatches, List.mergeSort_nil, applyInOrder]
  exact Text.unlines_lines script

end Patch

end SketchRepair
