import Mathlib.Data.List.Perm.Basic
import SketchRepair.Patch.Line
import SketchRepair.Text.Position

/-!
# SketchRepair — what line patches do to a script

Line patches are tried one after the other on the same lines. A patch looks at one line
only, and what a line is known to suffer from is told by the script as it was. So every
line goes its own way: it meets the patches that name it, in their order, and no other
patch matters to it. `meet` follows one line, without the rest of the script.

A line stays one line here even when a patch puts line feeds into it: the lines are not
counted anew.

* `parted_applyPatches` — every patch is applied or left out;
* `met?_applyPatches`, `applyPatches_off` — the outcome, seen from one line number;
* `perm_of_filter_perm` — lists that are alike under every key are alike;
* `applyLinePatches_apart` — **lines do not depend on each other**.
-/

namespace SketchRepair

namespace Patch

/-- Patches told apart into those applied and those left out, in their order. -/
inductive Parted : List LinePatch → List LinePatch → List (LinePatch × Rejection) → Prop where
  | nil : Parted [] [] []
  | applied {ps done : List LinePatch} {failed : List (LinePatch × Rejection)} (p : LinePatch)
      (hRest : Parted ps done failed) : Parted (p :: ps) (p :: done) failed
  | failed {ps done : List LinePatch} {failed : List (LinePatch × Rejection)} (p : LinePatch)
      (why : Rejection) (hRest : Parted ps done failed) : Parted (p :: ps) done ((p, why) :: failed)

/-- A line behind patches, and what became of these. -/
structure Met where
  line : Text
  applied : List LinePatch
  failed : List (LinePatch × Rejection)

/-- A line with the given fault meets patches that name it, one after the other. -/
def meet (threshold : Float) (fault : Option Script.ParenFault) : Text → List LinePatch → Met
  | line, [] => ⟨line, [], []⟩
  | line, p :: ps =>
    match patchLine threshold fault p line with
    | .ok new =>
      let rest := meet threshold fault new ps
      { rest with applied := p :: rest.applied }
    | .error why =>
      let rest := meet threshold fault line ps
      { rest with failed := (p, why) :: rest.failed }

/-- The patches that name the line `k`, counted from one. -/
def naming (k : Int) (ps : List LinePatch) : List LinePatch := ps.filter fun p => p.line = k

/-- The failures of patches that name the line `k`. -/
def failing (k : Int) (failed : List (LinePatch × Rejection)) : List (LinePatch × Rejection) :=
  failed.filter fun entry => entry.1.line = k

variable {threshold : Float} {faults : Int → Option Script.ParenFault} {lines : List Text}
  {p : LinePatch} {ps : List LinePatch} {line new : Text} {why : Rejection}

-- ---------------------------------------------------------------------------
-- One patch
-- ---------------------------------------------------------------------------

theorem meet_of_ok {fault : Option Script.ParenFault}
    (h : patchLine threshold fault p line = .ok new) :
    meet threshold fault line (p :: ps) =
      { meet threshold fault new ps with
        applied := p :: (meet threshold fault new ps).applied } := by
  rw [meet, h]

theorem meet_of_error {fault : Option Script.ParenFault}
    (h : patchLine threshold fault p line = .error why) :
    meet threshold fault line (p :: ps) =
      { meet threshold fault line ps with
        failed := (p, why) :: (meet threshold fault line ps).failed } := by
  rw [meet, h]

theorem applyPatches_of_ok {i : Nat} (hLine : p.line = i + 1) (hAt : lines[i]? = some line)
    (h : patchLine threshold (faults p.line) p line = .ok new) :
    applyPatches threshold faults lines (p :: ps) =
      { applyPatches threshold faults (lines.set i new) ps with
        applied := p :: (applyPatches threshold faults (lines.set i new) ps).applied } := by
  have hInside := (List.getElem?_eq_some_iff.mp hAt).1
  have hIndex : (p.line - 1).toNat = i := by omega
  have hHere : lines.getD i [] = line := by rw [List.getD_eq_getElem?_getD, hAt, Option.getD_some]
  rw [applyPatches, if_pos ⟨by omega, by omega⟩]
  simp only [hIndex, hHere, h]

theorem applyPatches_of_error {i : Nat} (hLine : p.line = i + 1) (hAt : lines[i]? = some line)
    (h : patchLine threshold (faults p.line) p line = .error why) :
    applyPatches threshold faults lines (p :: ps) =
      { applyPatches threshold faults lines ps with
        failed := (p, why) :: (applyPatches threshold faults lines ps).failed } := by
  have hInside := (List.getElem?_eq_some_iff.mp hAt).1
  have hIndex : (p.line - 1).toNat = i := by omega
  have hHere : lines.getD i [] = line := by rw [List.getD_eq_getElem?_getD, hAt, Option.getD_some]
  rw [applyPatches, if_pos ⟨by omega, by omega⟩]
  simp only [hIndex, hHere, h]

theorem applyPatches_of_outside (h : ¬ (1 ≤ p.line ∧ p.line ≤ lines.length)) :
    applyPatches threshold faults lines (p :: ps) =
      { applyPatches threshold faults lines ps with
        failed := (p, .outOfRange) :: (applyPatches threshold faults lines ps).failed } := by
  rw [applyPatches, if_neg h]

/-- Either a patch names a line of the script and meets it, or it names none. -/
theorem exists_line_or_outside (p : LinePatch) (lines : List Text) :
    (∃ i line, p.line = ((i : Nat) : Int) + 1 ∧ lines[i]? = some line) ∨
      ¬ (1 ≤ p.line ∧ p.line ≤ lines.length) := by
  by_cases h : 1 ≤ p.line ∧ p.line ≤ lines.length
  · have hInside : (p.line - 1).toNat < lines.length := by omega
    exact .inl ⟨(p.line - 1).toNat, lines[(p.line - 1).toNat], by omega,
      List.getElem?_eq_getElem hInside⟩
  · exact .inr h

-- ---------------------------------------------------------------------------
-- All patches
-- ---------------------------------------------------------------------------

theorem parted_applyPatches (ps : List LinePatch) : ∀ lines : List Text,
    Parted ps (applyPatches threshold faults lines ps).applied
      (applyPatches threshold faults lines ps).failed := by
  induction ps with
  | nil =>
    intro lines
    exact .nil
  | cons p ps ih =>
    intro lines
    rcases exists_line_or_outside p lines with ⟨i, line, hLine, hAt⟩ | hOutside
    · cases hPatched : patchLine threshold (faults p.line) p line with
      | ok new =>
        rw [applyPatches_of_ok hLine hAt hPatched]
        exact .applied p (ih _)
      | error why =>
        rw [applyPatches_of_error hLine hAt hPatched]
        exact .failed p why (ih _)
    · rw [applyPatches_of_outside hOutside]
      exact .failed p .outOfRange (ih _)

theorem length_applyPatches (ps : List LinePatch) : ∀ lines : List Text,
    (applyPatches threshold faults lines ps).lines.length = lines.length := by
  induction ps with
  | nil =>
    intro lines
    rfl
  | cons p ps ih =>
    intro lines
    rcases exists_line_or_outside p lines with ⟨i, line, hLine, hAt⟩ | hOutside
    · cases hPatched : patchLine threshold (faults p.line) p line with
      | ok new =>
        rw [applyPatches_of_ok hLine hAt hPatched]
        exact (ih _).trans (List.length_set ..)
      | error why =>
        rw [applyPatches_of_error hLine hAt hPatched]
        exact ih _
    · rw [applyPatches_of_outside hOutside]
      exact ih _

-- ---------------------------------------------------------------------------
-- One line
-- ---------------------------------------------------------------------------

theorem naming_cons_of_eq {k : Int} (h : p.line = k) : naming k (p :: ps) = p :: naming k ps :=
  List.filter_cons_of_pos (by simpa using h)

theorem naming_cons_of_ne {k : Int} (h : p.line ≠ k) : naming k (p :: ps) = naming k ps :=
  List.filter_cons_of_neg (by simpa using h)

theorem failing_cons_of_eq {k : Int} {failed : List (LinePatch × Rejection)} (h : p.line = k) :
    failing k ((p, why) :: failed) = (p, why) :: failing k failed :=
  List.filter_cons_of_pos (by simpa using h)

theorem failing_cons_of_ne {k : Int} {failed : List (LinePatch × Rejection)} (h : p.line ≠ k) :
    failing k ((p, why) :: failed) = failing k failed :=
  List.filter_cons_of_neg (by simpa using h)

/-- The part of an outcome that is about the line at `k`, counted from zero. -/
def LineOutcome.met? (o : LineOutcome) (k : Nat) : Option Met :=
  o.lines[k]?.map fun line => ⟨line, naming (k + 1) o.applied, failing (k + 1) o.failed⟩

theorem met?_eq_some_iff {o : LineOutcome} {k : Nat} {met : Met} : o.met? k = some met ↔
    o.lines[k]? = some met.line ∧ naming (k + 1) o.applied = met.applied ∧
      failing (k + 1) o.failed = met.failed := by
  rw [LineOutcome.met?, Option.map_eq_some_iff]
  constructor
  · rintro ⟨line, hLine, rfl⟩
    exact ⟨hLine, rfl, rfl⟩
  · rintro ⟨hLine, hApplied, hFailed⟩
    exact ⟨met.line, hLine, by rw [hApplied, hFailed]⟩

theorem met?_applied {o : LineOutcome} {k : Nat} (h : p.line = k + 1) :
    { o with applied := p :: o.applied }.met? k =
      (o.met? k).map fun met => { met with applied := p :: met.applied } := by
  simp only [LineOutcome.met?, naming_cons_of_eq h, Option.map_map, Function.comp_def]

theorem met?_applied_of_ne {o : LineOutcome} {k : Nat} (h : p.line ≠ k + 1) :
    { o with applied := p :: o.applied }.met? k = o.met? k := by
  simp only [LineOutcome.met?, naming_cons_of_ne h]

theorem met?_failed {o : LineOutcome} {k : Nat} (h : p.line = k + 1) :
    { o with failed := (p, why) :: o.failed }.met? k =
      (o.met? k).map fun met => { met with failed := (p, why) :: met.failed } := by
  simp only [LineOutcome.met?, failing_cons_of_eq h, Option.map_map, Function.comp_def]

theorem met?_failed_of_ne {o : LineOutcome} {k : Nat} (h : p.line ≠ k + 1) :
    { o with failed := (p, why) :: o.failed }.met? k = o.met? k := by
  simp only [LineOutcome.met?, failing_cons_of_ne h]

/-- A line of the script meets the patches that name it, and nothing else. -/
theorem met?_applyPatches {k : Nat} (ps : List LinePatch) : ∀ {lines : List Text} {line : Text},
    lines[k]? = some line →
      (applyPatches threshold faults lines ps).met? k =
        some (meet threshold (faults (k + 1)) line (naming (k + 1) ps)) := by
  induction ps with
  | nil =>
    intro lines line hk
    rw [LineOutcome.met?, applyPatches, hk]
    rfl
  | cons p ps ih =>
    intro lines line hk
    rcases exists_line_or_outside p lines with ⟨i, l, hLine, hAt⟩ | hOutside
    · by_cases hSame : i = k
      · -- the patch names this very line
        subst hSame
        obtain rfl : l = line := Option.some.inj (hAt.symm.trans hk)
        rw [naming_cons_of_eq hLine, ← hLine]
        cases hPatched : patchLine threshold (faults p.line) p l with
        | ok new =>
          have hSet : (lines.set i new)[i]? = some new :=
            List.getElem?_set_self (List.getElem?_eq_some_iff.mp hAt).1
          rw [applyPatches_of_ok hLine hAt hPatched, met?_applied hLine, ih hSet, ← hLine,
            meet_of_ok hPatched]
          rfl
        | error why =>
          rw [applyPatches_of_error hLine hAt hPatched, met?_failed hLine, ih hk, ← hLine,
            meet_of_error hPatched]
          rfl
      · -- another line may change, this one does not
        have hNe : p.line ≠ (k : Int) + 1 := by omega
        rw [naming_cons_of_ne hNe]
        cases hPatched : patchLine threshold (faults p.line) p l with
        | ok new =>
          have hSet : (lines.set i new)[k]? = some line := by
            rw [List.getElem?_set_ne hSame, hk]
          rw [applyPatches_of_ok hLine hAt hPatched, met?_applied_of_ne hNe, ih hSet]
        | error why =>
          rw [applyPatches_of_error hLine hAt hPatched, met?_failed_of_ne hNe, ih hk]
    · have hInside := (List.getElem?_eq_some_iff.mp hk).1
      have hNe : p.line ≠ (k : Int) + 1 := by omega
      rw [naming_cons_of_ne hNe, applyPatches_of_outside hOutside, met?_failed_of_ne hNe, ih hk]

/-- A patch that names no line of the script is left out. -/
theorem applyPatches_off {k : Int} (ps : List LinePatch) : ∀ {lines : List Text},
    ¬ (1 ≤ k ∧ k ≤ lines.length) →
      naming k (applyPatches threshold faults lines ps).applied = [] ∧
        failing k (applyPatches threshold faults lines ps).failed =
          (naming k ps).map fun p => (p, .outOfRange) := by
  induction ps with
  | nil =>
    intro lines _
    exact ⟨rfl, rfl⟩
  | cons p ps ih =>
    intro lines hk
    rcases exists_line_or_outside p lines with ⟨i, l, hLine, hAt⟩ | hOutside
    · have hInside := (List.getElem?_eq_some_iff.mp hAt).1
      have hNe : p.line ≠ k := by omega
      rw [naming_cons_of_ne hNe]
      cases hPatched : patchLine threshold (faults p.line) p l with
      | ok new =>
        have hSet : ¬ (1 ≤ k ∧ k ≤ ((lines.set i new).length : Int)) := by
          rwa [List.length_set]
        rw [applyPatches_of_ok hLine hAt hPatched]
        exact ⟨(naming_cons_of_ne hNe).trans (ih hSet).1, (ih hSet).2⟩
      | error why =>
        rw [applyPatches_of_error hLine hAt hPatched]
        exact ⟨(ih hk).1, (failing_cons_of_ne hNe).trans (ih hk).2⟩
    · rw [applyPatches_of_outside hOutside]
      refine ⟨(ih hk).1, ?_⟩
      by_cases hSame : p.line = k
      · rw [failing_cons_of_eq hSame, naming_cons_of_eq hSame, (ih hk).2]
        rfl
      · rw [failing_cons_of_ne hSame, naming_cons_of_ne hSame, (ih hk).2]

/-- A line that no patch is applied to stays as it is. -/
theorem meet_line_of_applied_eq_nil {fault : Option Script.ParenFault} (ps : List LinePatch) :
    (meet threshold fault line ps).applied = [] → (meet threshold fault line ps).line = line := by
  induction ps with
  | nil =>
    intro _
    rfl
  | cons p ps ih =>
    cases hPatched : patchLine threshold fault p line with
    | ok new =>
      rw [meet_of_ok hPatched]
      intro hNil
      exact absurd hNil (List.cons_ne_nil _ _)
    | error why =>
      rw [meet_of_error hPatched]
      exact ih

-- ---------------------------------------------------------------------------
-- Another order
-- ---------------------------------------------------------------------------

/-- Lists whose entries of every key are alike are alike. -/
theorem perm_of_filter_perm {α : Type} (key : α → Int) {l l' : List α}
    (h : ∀ k, (l.filter fun x => key x = k).Perm (l'.filter fun x => key x = k)) : l.Perm l' := by
  classical
  rw [List.perm_iff_count]
  intro x
  have hCount (m : List α) : (m.filter fun y => key y = key x).count x = m.count x :=
    List.count_filter (by simp)
  rw [← hCount l, ← hCount l', (h (key x)).count_eq]

/-- A line that no applied patch names is the one it was. -/
theorem getElem?_lines_of_unnamed {k : Nat}
    (h : ∀ p ∈ (applyPatches threshold faults lines ps).applied, p.line ≠ k + 1) :
    (applyPatches threshold faults lines ps).lines[k]? = lines[k]? := by
  cases hk : lines[k]? with
  | none =>
    rw [List.getElem?_eq_none_iff] at hk ⊢
    rwa [length_applyPatches]
  | some line =>
    have hMet : (applyPatches threshold faults lines ps).met? k = _ := met?_applyPatches ps hk
    obtain ⟨hLine, hApplied, -⟩ := met?_eq_some_iff.mp hMet
    have hNone : naming (k + 1) (applyPatches threshold faults lines ps).applied = [] :=
      List.filter_eq_nil_iff.mpr (by simpa using h)
    rw [hLine, meet_line_of_applied_eq_nil _ (hApplied.symm.trans hNone)]

variable {qs : List LinePatch}

/-- The patches of every line in the same order lead to the same lines. -/
theorem lines_applyPatches_congr
    (h : ∀ k : Int, 1 ≤ k → k ≤ lines.length → naming k qs = naming k ps) :
    (applyPatches threshold faults lines qs).lines =
      (applyPatches threshold faults lines ps).lines := by
  refine List.ext_getElem? fun k => ?_
  by_cases hk : k < lines.length
  · have hAt := List.getElem?_eq_getElem hk
    rw [(met?_eq_some_iff.mp (met?_applyPatches qs hAt)).1,
      (met?_eq_some_iff.mp (met?_applyPatches ps hAt)).1, h (k + 1) (by omega) (by omega)]
  · rw [List.getElem?_eq_none (by rw [length_applyPatches]; omega),
      List.getElem?_eq_none (by rw [length_applyPatches]; omega)]

/-- The patches of every line in the same order are applied and left out alike. -/
theorem perm_applyPatches (hPerm : qs.Perm ps)
    (h : ∀ k : Int, 1 ≤ k → k ≤ lines.length → naming k qs = naming k ps) :
    (applyPatches threshold faults lines qs).applied.Perm
        (applyPatches threshold faults lines ps).applied ∧
      (applyPatches threshold faults lines qs).failed.Perm
        (applyPatches threshold faults lines ps).failed := by
  have hMet (rs : List LinePatch) (i : Nat) (hi : i < lines.length) :
      (applyPatches threshold faults lines rs).met? i =
        some (meet threshold (faults (i + 1)) lines[i] (naming (i + 1) rs)) :=
    met?_applyPatches rs (List.getElem?_eq_getElem hi)
  have hKey (k : Int) : (naming k (applyPatches threshold faults lines qs).applied).Perm
        (naming k (applyPatches threshold faults lines ps).applied) ∧
      (failing k (applyPatches threshold faults lines qs).failed).Perm
        (failing k (applyPatches threshold faults lines ps).failed) := by
    by_cases hk : 1 ≤ k ∧ k ≤ lines.length
    · obtain ⟨i, rfl⟩ : ∃ i : Nat, k = i + 1 := ⟨(k - 1).toNat, by omega⟩
      obtain ⟨-, hApplied, hFailed⟩ := met?_eq_some_iff.mp (hMet qs i (by omega))
      obtain ⟨-, hApplied', hFailed'⟩ := met?_eq_some_iff.mp (hMet ps i (by omega))
      rw [hApplied, hApplied', hFailed, hFailed', h (i + 1) hk.1 hk.2]
      exact ⟨.refl _, .refl _⟩
    · -- patches of no line fail all alike
      have hOff (rs : List LinePatch) :
          naming k (applyPatches threshold faults lines rs).applied = [] ∧
            failing k (applyPatches threshold faults lines rs).failed =
              (naming k rs).map fun p => (p, .outOfRange) := applyPatches_off rs hk
      rw [(hOff qs).1, (hOff ps).1, (hOff qs).2, (hOff ps).2]
      exact ⟨.refl _, (hPerm.filter _).map _⟩
  exact ⟨perm_of_filter_perm LinePatch.line fun k => (hKey k).1,
    perm_of_filter_perm (fun entry : LinePatch × Rejection => entry.1.line) fun k => (hKey k).2⟩

/-- **Lines do not depend on each other.** Every patch is applied or left out, in its
place in the list. The script keeps its lines, if what a patch puts on a line is taken
as one line; those that no applied patch names are as they were. And patches in another
order that is the same for the patches of each line lead to the same script, are applied
alike and are left out alike, for the same reasons. -/
theorem applyLinePatches_apart (threshold : Float) (source : Text) (patches : List LinePatch)
    (issues : List Script.ParenIssue) :
    let outcome := applyLinePatches threshold source patches issues
    Parted patches outcome.applied outcome.failed ∧
      outcome.content = Text.unlines outcome.lines ∧
      outcome.lines.length = (Text.lines source).length ∧
      (∀ k : Nat, (∀ p ∈ outcome.applied, p.line ≠ k + 1) →
        outcome.lines[k]? = (Text.lines source)[k]?) ∧
      ∀ others : List LinePatch, others.Perm patches →
        (∀ k : Int, 1 ≤ k → k ≤ (Text.lines source).length →
          naming k others = naming k patches) →
        let again := applyLinePatches threshold source others issues
        again.content = outcome.content ∧ again.applied.Perm outcome.applied ∧
          again.failed.Perm outcome.failed := by
  refine ⟨parted_applyPatches patches _, rfl, length_applyPatches patches _, ?_, ?_⟩
  · intro k hUnnamed
    exact getElem?_lines_of_unnamed hUnnamed
  · intro others hPerm hNaming
    refine ⟨?_, perm_applyPatches hPerm hNaming⟩
    exact congrArg Text.unlines (lines_applyPatches_congr hNaming)

end Patch

end SketchRepair
