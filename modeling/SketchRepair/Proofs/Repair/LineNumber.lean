import SketchRepair.Proofs.Text.Lines
import SketchRepair.Repair.Pass.UndefinedVariable

/-!
# SketchRepair — the lines that numbered patches are about

The patches of an undefined variable are put in one after the other, and each counts the
lines that it finds. They are the lines of the script only as long as the patches before it
have moved none: a patch whose number fits no line may put a declaration before all lines,
or put text with more or fewer line feeds in the place of what it expects. So the lines of
the script are followed here from patch to patch, and a number means the line that the
script has there exactly as long as that line has not been moved.

* `replaceLine_eq` — the three things that a patch may do;
* `Spot.step_sound`, `Spot.step_lt` — one patch: a line that is followed is where it is
  said to be, and lines do not change places;
* `Spot.along_sound`, `Spot.along_lt` — the same for a list of patches;
* `Spot.along_of_drift?` — patches that move all lines alike;
* `replaceLines_numbering` — **which line a numbered patch replaces**.
-/

namespace SketchRepair

namespace Pass

open Patch (LinePatch)

variable {name script : Text} {lines : List Text} {p : LinePatch} {ps qs : List LinePatch}

-- ---------------------------------------------------------------------------
-- One patch
-- ---------------------------------------------------------------------------

/-- What a patch does to lines. -/
inductive Effect where
  /-- Its text takes the place of the line with its number. -/
  | overwrites
  /-- Its text takes the place of what it expects, which is found between two texts. -/
  | rewrites (before behind : Text)
  /-- A declaration comes before the lines. -/
  | declares
  deriving DecidableEq

def effect (lines : List Text) (p : LinePatch) : Effect :=
  if 0 < p.line ∧ p.line ≤ lines.length then .overwrites
  else if p.expected.isEmpty then .declares
  else
    match Text.cut? p.expected (Text.unlines lines) with
    | some (before, behind) => .rewrites before behind
    | none => .declares

theorem effect_eq_overwrites_iff :
    effect lines p = .overwrites ↔ 0 < p.line ∧ p.line ≤ lines.length := by
  unfold effect
  split
  · next h => simp [h]
  · next h =>
    split
    · simp [h]
    · split
      · simp [h]
      · simp [h]

theorem unlines_of_rewrites {before behind : Text} (h : effect lines p = .rewrites before behind) :
    Text.unlines lines = before ++ (p.expected ++ behind) := by
  unfold effect at h
  split at h
  · cases h
  · split at h
    · cases h
    · split at h
      · next hCut =>
        cases h
        rw [← List.append_assoc]
        exact Text.cut?_eq_some hCut
      · cases h

theorem replaceLine_eq (name : Text) (lines : List Text) (p : LinePatch) :
    replaceLine name lines p = match effect lines p with
      | .overwrites => lines.set (p.line - 1).toNat p.fixed
      | .rewrites before behind => Text.lines (before ++ (p.fixed ++ behind))
      | .declares =>
        defaultDeclaration name "Auto-declared at top level to fix undefined error".toList ::
          lines := by
  unfold replaceLine effect
  split
  · rfl
  · cases hExpected : p.expected.isEmpty with
    | true => rfl
    | false =>
      cases hCut : Text.cut? p.expected (Text.unlines lines) with
      | none => simp [Text.has, hCut]
      | some cut => simp [Text.has, Text.replaceFirst, hCut]

theorem replaceLine_of_overwrites (h : effect lines p = .overwrites) :
    replaceLine name lines p = lines.set (p.line - 1).toNat p.fixed := by
  rw [replaceLine_eq, h]

theorem replaceLine_of_rewrites {before behind : Text}
    (h : effect lines p = .rewrites before behind) :
    replaceLine name lines p = Text.lines (before ++ (p.fixed ++ behind)) := by
  rw [replaceLine_eq, h]

-- ---------------------------------------------------------------------------
-- Following a line
-- ---------------------------------------------------------------------------

/-- A place among lines, and the text that stands there. -/
structure Spot where
  index : Nat
  text : Text
  deriving DecidableEq

/-- How many rows the lines before an index take: a line may hold line feeds that a patch
put there. -/
def rowsBefore (lines : List Text) (index : Nat) : Nat :=
  ((lines.take index).flatMap Text.lines).length

namespace Spot

variable {s s' u u' : Spot}

/-- The spot where a line is after a patch. None when it is then no line of its own: it
held several rows, and they are lines now, or what the patch expects begins or ends in it
and the number of rows changes there. -/
def step (name : Text) (lines : List Text) (p : LinePatch) (s : Spot) : Option Spot :=
  match effect lines p with
  | .overwrites => some ⟨s.index, if p.line = s.index + 1 then p.fixed else s.text⟩
  | .declares => some ⟨s.index + 1, s.text⟩
  | .rewrites before _ =>
    let row := rowsBefore lines s.index
    let first := before.count '\n'
    let gone := p.expected.count '\n'
    let come := p.fixed.count '\n'
    if '\n' ∈ s.text then none
    else if row < first then some ⟨row, s.text⟩
    else if first + gone < row then some ⟨row - gone + come, s.text⟩
    else if gone = come then (replaceLine name lines p)[row]?.map (⟨row, ·⟩)
    else none

/-- The spot where a line is after patches, one after the other. -/
def along (name : Text) : List Text → List LinePatch → Spot → Option Spot
  | _, [], s => some s
  | lines, p :: ps, s => (s.step name lines p).bind (along name (replaceLine name lines p) ps)

theorem step_of_overwrites (h : effect lines p = .overwrites) :
    s.step name lines p = some ⟨s.index, if p.line = s.index + 1 then p.fixed else s.text⟩ := by
  rw [step, h]

theorem along_append (lines : List Text) (ps qs : List LinePatch) (s : Spot) :
    s.along name lines (ps ++ qs) =
      (s.along name lines ps).bind (along name (ps.foldl (replaceLine name) lines) qs) := by
  induction ps generalizing lines s with
  | nil => rfl
  | cons p ps ih =>
    rw [List.cons_append, along, along, Option.bind_assoc]
    congr 1
    funext s
    exact ih _ s

end Spot

-- ---------------------------------------------------------------------------
-- Rows
-- ---------------------------------------------------------------------------

/-- A line that is one row is that row when the lines are joined and cut anew. -/
theorem getElem?_rowsBefore {s : Spot} (h : lines[s.index]? = some s.text)
    (hRow : '\n' ∉ s.text) :
    (lines.flatMap Text.lines)[rowsBefore lines s.index]? = some s.text := by
  obtain ⟨hIndex, hText⟩ := List.getElem?_eq_some_iff.mp h
  have hRows : lines.flatMap Text.lines = (lines.take s.index).flatMap Text.lines ++
      s.text :: (lines.drop (s.index + 1)).flatMap Text.lines :=
    calc lines.flatMap Text.lines
        = (lines.take s.index ++ lines.drop s.index).flatMap Text.lines := by
          rw [List.take_append_drop]
      _ = _ := by
          rw [List.flatMap_append, List.drop_eq_getElem_cons hIndex, hText, List.flatMap_cons,
            Text.lines_of_not_mem hRow, List.singleton_append]
  rw [hRows, rowsBefore, List.getElem?_append_right (Nat.le_refl _), Nat.sub_self]
  rfl

/-- Every line is a row at least. -/
theorem rowsBefore_lt {i j : Nat} (hij : i < j) (hi : i < lines.length) :
    rowsBefore lines i < rowsBefore lines j := by
  obtain ⟨rest, hRest⟩ : lines.take (i + 1) <+: lines.take j := List.take_prefix_take_left hij
  have hRow : 0 < (Text.lines lines[i]).length :=
    List.length_pos_iff.mpr (Text.lines_ne_nil lines[i])
  rw [rowsBefore, rowsBefore, ← hRest, List.take_succ_eq_append_getElem hi]
  simp only [List.flatMap_append, List.flatMap_singleton, List.length_append]
  omega

/-- Lines without line feeds are a row each. -/
theorem flatMap_lines_eq (hRows : ∀ l ∈ lines, '\n' ∉ l) : lines.flatMap Text.lines = lines := by
  induction lines with
  | nil => rfl
  | cons l lines ih =>
    rw [List.forall_mem_cons] at hRows
    rw [List.flatMap_cons, Text.lines_of_not_mem hRows.1, ih hRows.2, List.singleton_append]

theorem rowsBefore_eq {i : Nat} (hRows : ∀ l ∈ lines, '\n' ∉ l) (hi : i < lines.length) :
    rowsBefore lines i = i := by
  rw [rowsBefore, flatMap_lines_eq fun l hl => hRows l (List.mem_of_mem_take hl),
    List.length_take_of_le (Nat.le_of_lt hi)]

section Rewriting

variable {before behind t : Text} {row : Nat}
  (hEffect : effect lines p = .rewrites before behind)
include hEffect

/-- The rows as a patch finds and leaves them: what is above and below the text that it
rewrites is the same. -/
theorem exists_rows_of_rewrites (name : Text) (hNonempty : lines ≠ []) :
    ∃ above gone come below, above.length = before.count '\n' ∧
      gone.length = p.expected.count '\n' + 1 ∧ come.length = p.fixed.count '\n' + 1 ∧
      lines.flatMap Text.lines = above ++ (gone ++ below) ∧
      replaceLine name lines p = above ++ (come ++ below) := by
  obtain ⟨above, below, hAbove, h⟩ := Text.exists_lines_around before behind
  obtain ⟨gone, hGone, hFound⟩ := h p.expected
  obtain ⟨come, hCome, hLeft⟩ := h p.fixed
  refine ⟨above, gone, come, below, hAbove, hGone, hCome, ?_, ?_⟩
  · rw [← Text.lines_unlines_eq hNonempty, unlines_of_rewrites hEffect, hFound]
  · rw [replaceLine_of_rewrites hEffect, hLeft]

/-- A row above what is rewritten stays where it is, and one below it is moved by the line
feeds that come and go. -/
theorem getElem?_of_rewrites (name : Text) (h : (lines.flatMap Text.lines)[row]? = some t) :
    (row < before.count '\n' → (replaceLine name lines p)[row]? = some t) ∧
      (before.count '\n' + p.expected.count '\n' < row →
        (replaceLine name lines p)[row - p.expected.count '\n' + p.fixed.count '\n']? =
          some t) := by
  have hNonempty : lines ≠ [] := by
    rintro rfl
    cases h
  obtain ⟨above, gone, come, below, hAbove, hGone, hCome, hFound, hLeft⟩ :=
    exists_rows_of_rewrites hEffect name hNonempty
  rw [hFound] at h
  rw [hLeft]
  constructor
  · intro hRow
    rw [List.getElem?_append_left (hAbove ▸ hRow)] at h ⊢
    exact h
  · intro hRow
    rw [List.getElem?_append_right (by omega), List.getElem?_append_right (by omega)] at h ⊢
    rw [← h]
    congr 1
    omega

/-- As many line feeds come as go, so the number of rows is the same. -/
theorem length_of_rewrites (hNonempty : lines ≠ [])
    (hSame : p.expected.count '\n' = p.fixed.count '\n') :
    (replaceLine name lines p).length = (lines.flatMap Text.lines).length := by
  obtain ⟨above, gone, come, below, -, hGone, hCome, hFound, hLeft⟩ :=
    exists_rows_of_rewrites hEffect name hNonempty
  simp only [hFound, hLeft, List.length_append]
  omega

end Rewriting

-- ---------------------------------------------------------------------------
-- Lines that are followed
-- ---------------------------------------------------------------------------

namespace Spot

variable {s s' u u' : Spot}

/-- Where a line may be that is followed through a rewriting. -/
theorem step_cases {before behind : Text} (hEffect : effect lines p = .rewrites before behind)
    (h : s.step name lines p = some s') :
    '\n' ∉ s.text ∧
      (rowsBefore lines s.index < before.count '\n' ∧
          s'.index = rowsBefore lines s.index ∧ s'.text = s.text ∨
        before.count '\n' + p.expected.count '\n' < rowsBefore lines s.index ∧
          s'.index = rowsBefore lines s.index - p.expected.count '\n' + p.fixed.count '\n' ∧
          s'.text = s.text ∨
        p.expected.count '\n' = p.fixed.count '\n' ∧ s'.index = rowsBefore lines s.index ∧
          (replaceLine name lines p)[rowsBefore lines s.index]? = some s'.text) := by
  rw [step, hEffect] at h
  dsimp only at h
  split at h
  · cases h
  · next hRow =>
    refine ⟨hRow, ?_⟩
    split at h
    · next hAbove =>
      cases h
      exact .inl ⟨hAbove, rfl, rfl⟩
    · split at h
      · next hBelow =>
        cases h
        exact .inr (.inl ⟨hBelow, rfl, rfl⟩)
      · split at h
        · next hSame =>
          obtain ⟨text, hText, rfl⟩ := Option.map_eq_some_iff.mp h
          exact .inr (.inr ⟨hSame, rfl, hText⟩)
        · cases h

/-- After a patch a line is where it is said to be. -/
theorem step_sound (hHere : lines[s.index]? = some s.text)
    (h : s.step name lines p = some s') :
    (replaceLine name lines p)[s'.index]? = some s'.text := by
  cases hEffect : effect lines p with
  | overwrites =>
    rw [step_of_overwrites hEffect] at h
    cases h
    obtain ⟨hPos, -⟩ := effect_eq_overwrites_iff.mp hEffect
    obtain ⟨hIndex, -⟩ := List.getElem?_eq_some_iff.mp hHere
    rw [replaceLine_of_overwrites hEffect]
    dsimp only
    by_cases hLine : p.line = s.index + 1
    · have hPlace : (p.line - 1).toNat = s.index := by omega
      rw [if_pos hLine, hPlace, List.getElem?_set_self hIndex]
    · have hPlace : (p.line - 1).toNat ≠ s.index := by omega
      rw [if_neg hLine, List.getElem?_set_ne hPlace, hHere]
  | declares =>
    rw [step, hEffect] at h
    cases h
    rw [replaceLine_eq, hEffect]
    exact hHere
  | rewrites before behind =>
    obtain ⟨hRow, hCases⟩ := step_cases hEffect h
    obtain ⟨hStays, hMoves⟩ := getElem?_of_rewrites hEffect name (getElem?_rowsBefore hHere hRow)
    rcases hCases with ⟨hAbove, hIndex, hText⟩ | ⟨hBelow, hIndex, hText⟩ | ⟨-, hIndex, hText⟩
    · rw [hIndex, hText, hStays hAbove]
    · rw [hIndex, hText, hMoves hBelow]
    · rw [hIndex, hText]

/-- Lines do not change places. -/
theorem step_lt (hHere : lines[s.index]? = some s.text) (hLt : s.index < u.index)
    (hs : s.step name lines p = some s') (hu : u.step name lines p = some u') :
    s'.index < u'.index := by
  cases hEffect : effect lines p with
  | overwrites =>
    rw [step_of_overwrites hEffect] at hs hu
    cases hs
    cases hu
    exact hLt
  | declares =>
    rw [step, hEffect] at hs hu
    cases hs
    cases hu
    exact Nat.succ_lt_succ hLt
  | rewrites before behind =>
    have hRows : rowsBefore lines s.index < rowsBefore lines u.index :=
      rowsBefore_lt hLt (List.getElem?_eq_some_iff.mp hHere).1
    obtain ⟨-, ⟨_, hs', -⟩ | ⟨_, hs', -⟩ | ⟨_, hs', -⟩⟩ := step_cases hEffect hs <;>
      obtain ⟨-, ⟨_, hu', -⟩ | ⟨_, hu', -⟩ | ⟨_, hu', -⟩⟩ := step_cases hEffect hu <;>
      omega

theorem along_sound (hHere : lines[s.index]? = some s.text)
    (h : s.along name lines ps = some s') :
    (ps.foldl (replaceLine name) lines)[s'.index]? = some s'.text := by
  induction ps generalizing lines s with
  | nil =>
    cases h
    exact hHere
  | cons p ps ih =>
    obtain ⟨m, hm, h⟩ := Option.bind_eq_some_iff.mp h
    exact ih (step_sound hHere hm) h

theorem along_lt (hHere : lines[s.index]? = some s.text)
    (hThere : lines[u.index]? = some u.text) (hLt : s.index < u.index)
    (hs : s.along name lines ps = some s') (hu : u.along name lines ps = some u') :
    s'.index < u'.index := by
  induction ps generalizing lines s u with
  | nil =>
    cases hs
    cases hu
    exact hLt
  | cons p ps ih =>
    obtain ⟨m, hm, hs⟩ := Option.bind_eq_some_iff.mp hs
    obtain ⟨n, hn, hu⟩ := Option.bind_eq_some_iff.mp hu
    exact ih (step_sound hHere hm) (step_sound hThere hn) (step_lt hHere hLt hm hn) hs hu

end Spot

-- ---------------------------------------------------------------------------
-- Patches that move all lines alike
-- ---------------------------------------------------------------------------

/-- By how much a patch moves every line down: a declaration by one, a number of a line not
at all, and what is rewritten not at all if as many line feeds come as go, among lines that
have none. None for any other rewriting. -/
def shift? (lines : List Text) (p : LinePatch) : Option Nat :=
  match effect lines p with
  | .overwrites => some 0
  | .rewrites _ _ =>
    if p.expected.count '\n' = p.fixed.count '\n' ∧ ∀ l ∈ lines, '\n' ∉ l then some 0 else none
  | .declares => some 1

/-- By how much patches move every line down, one after the other. -/
def drift? (name : Text) : List Text → List LinePatch → Option Nat
  | _, [] => some 0
  | lines, p :: ps =>
    (shift? lines p).bind fun m => (drift? name (replaceLine name lines p) ps).map (m + ·)

namespace Spot

variable {s : Spot}

theorem step_of_shift? {m : Nat} (h : shift? lines p = some m) (name : Text)
    (hHere : lines[s.index]? = some s.text) :
    ∃ t, s.step name lines p = some ⟨s.index + m, t⟩ := by
  unfold shift? at h
  cases hEffect : effect lines p with
  | overwrites =>
    rw [hEffect] at h
    cases h
    exact ⟨_, step_of_overwrites hEffect⟩
  | declares =>
    rw [hEffect] at h
    cases h
    exact ⟨s.text, by rw [step, hEffect]⟩
  | rewrites before behind =>
    rw [hEffect] at h
    obtain ⟨⟨hSame, hRows⟩, hm⟩ := Option.ite_none_right_eq_some.mp h
    obtain rfl : 0 = m := Option.some.inj hm
    obtain ⟨hIndex, hText⟩ := List.getElem?_eq_some_iff.mp hHere
    have hRow : '\n' ∉ s.text := hRows _ (List.mem_of_getElem hText)
    have hNew : s.index < (replaceLine name lines p).length := by
      rw [length_of_rewrites hEffect (List.ne_nil_of_length_pos (Nat.zero_lt_of_lt hIndex)) hSame,
        flatMap_lines_eq hRows]
      exact hIndex
    rw [step, hEffect]
    dsimp only
    rw [rowsBefore_eq hRows hIndex, if_neg hRow, hSame, if_pos rfl,
      List.getElem?_eq_getElem hNew]
    split
    · exact ⟨_, rfl⟩
    · split
      · rw [Nat.sub_add_cancel (by omega)]
        exact ⟨_, rfl⟩
      · exact ⟨_, rfl⟩

theorem along_of_drift? {d : Nat} (h : drift? name lines ps = some d)
    (hHere : lines[s.index]? = some s.text) :
    ∃ t, s.along name lines ps = some ⟨s.index + d, t⟩ := by
  induction ps generalizing lines s d with
  | nil =>
    cases h
    exact ⟨s.text, rfl⟩
  | cons p ps ih =>
    obtain ⟨m, hm, h⟩ := Option.bind_eq_some_iff.mp h
    obtain ⟨e, he, rfl⟩ := Option.map_eq_some_iff.mp h
    obtain ⟨t, ht⟩ := step_of_shift? hm name hHere
    obtain ⟨t', ht'⟩ := ih he (step_sound hHere ht)
    rw [Nat.add_assoc] at ht'
    exact ⟨t', Option.bind_eq_some_iff.mpr ⟨_, ht, ht'⟩⟩

end Spot

-- ---------------------------------------------------------------------------
-- The lines of the script
-- ---------------------------------------------------------------------------

/-- The lines of the script after patches, one after the other. -/
def linesAfter (name script : Text) (ps : List LinePatch) : List Text :=
  ps.foldl (replaceLine name) (Text.lines script)

/-- The spot where the line that has the index in the script is after patches. -/
def place? (name script : Text) (ps : List LinePatch) (index : Nat) : Option Spot :=
  (Text.lines script)[index]?.bind fun line =>
    Spot.along name (Text.lines script) ps ⟨index, line⟩

/-- Behind the patches `ps`, the patch `p` puts its text in the place of that very line of
the script that has the index, and touches no other line. -/
structure ReplacesOwn (name script : Text) (ps : List LinePatch) (p : LinePatch) (index : Nat) :
    Prop where
  lines : linesAfter name script (ps ++ [p]) = (linesAfter name script ps).set index p.fixed
  own : place? name script (ps ++ [p]) index = some ⟨index, p.fixed⟩
  others : ∀ i, i ≠ index → place? name script (ps ++ [p]) i = place? name script ps i

theorem linesAfter_append (ps qs : List LinePatch) : linesAfter name script (ps ++ qs) =
    qs.foldl (replaceLine name) (linesAfter name script ps) :=
  List.foldl_append

theorem place?_append (ps : List LinePatch) (p : LinePatch) (i : Nat) :
    place? name script (ps ++ [p]) i =
      (place? name script ps i).bind (Spot.step name (linesAfter name script ps) p) := by
  simp only [place?, Spot.along_append, Option.bind_assoc]
  congr 1
  funext line
  congr 1
  funext s
  exact Option.bind_fun_some _

section Place

variable {i j : Nat} {s u : Spot}

theorem getElem?_of_place? (h : place? name script ps i = some s) :
    (linesAfter name script ps)[s.index]? = some s.text := by
  obtain ⟨line, hLine, h⟩ := Option.bind_eq_some_iff.mp h
  exact Spot.along_sound hLine h

theorem place?_lt (hij : i < j) (hi : place? name script ps i = some s)
    (hj : place? name script ps j = some u) : s.index < u.index := by
  obtain ⟨line, hLine, hi⟩ := Option.bind_eq_some_iff.mp hi
  obtain ⟨line', hLine', hj⟩ := Option.bind_eq_some_iff.mp hj
  exact Spot.along_lt hLine hLine' hij hi hj

/-- No two lines of the script are at one place. -/
theorem place?_inj (hi : place? name script ps i = some s) (hj : place? name script ps j = some u)
    (hSame : s.index = u.index) : i = j := by
  rcases Nat.lt_trichotomy i j with hij | rfl | hji
  · exact absurd hSame (Nat.ne_of_lt (place?_lt hij hi hj))
  · rfl
  · exact absurd hSame.symm (Nat.ne_of_lt (place?_lt hji hj hi))

theorem place?_of_drift? {d : Nat} (h : drift? name (Text.lines script) ps = some d)
    (hi : i < (Text.lines script).length) :
    ∃ t, place? name script ps i = some ⟨i + d, t⟩ := by
  rw [place?, List.getElem?_eq_getElem hi, Option.bind_some]
  exact Spot.along_of_drift? h (List.getElem?_eq_getElem hi)

/-- A number means a line of the script exactly if that line is where it was. -/
theorem replacesOwn_iff (hLine : p.line = i + 1) :
    ReplacesOwn name script ps p i ↔ ∃ t, place? name script ps i = some ⟨i, t⟩ := by
  have hOverwrites : i < (linesAfter name script ps).length →
      effect (linesAfter name script ps) p = .overwrites := fun hIndex =>
    effect_eq_overwrites_iff.mpr (by omega)
  constructor
  · intro h
    -- no line comes or goes, so the number is that of a line before the patch, too
    have hIndex : i < (linesAfter name script ps).length := by
      rw [← List.length_set, ← h.lines]
      exact (List.getElem?_eq_some_iff.mp (getElem?_of_place? h.own)).1
    have hOwn := h.own
    rw [place?_append] at hOwn
    obtain ⟨s, hPlace, hStep⟩ := Option.bind_eq_some_iff.mp hOwn
    rw [Spot.step_of_overwrites (hOverwrites hIndex), Option.some.injEq, Spot.mk.injEq] at hStep
    exact ⟨s.text, hStep.1 ▸ hPlace⟩
  · rintro ⟨t, hPlace⟩
    have hEffect := hOverwrites (List.getElem?_eq_some_iff.mp (getElem?_of_place? hPlace)).1
    constructor
    case lines =>
      have hRow : (p.line - 1).toNat = i := by omega
      rw [linesAfter_append, List.foldl_cons, List.foldl_nil, replaceLine_of_overwrites hEffect,
        hRow]
    case own =>
      rw [place?_append, hPlace, Option.bind_some, Spot.step_of_overwrites hEffect, if_pos hLine]
    case others =>
      intro j hj
      rw [place?_append]
      cases hOther : place? name script ps j with
      | none => rfl
      | some u =>
        have hApart : p.line ≠ u.index + 1 := by
          intro hSame
          have hMeet : u.index = i := by omega
          exact hj (place?_inj hOther hPlace hMeet)
        rw [Option.bind_some, Spot.step_of_overwrites hEffect, if_neg hApart]

end Place

/-- Patches with numbers of other lines leave a line as it is. -/
theorem getElem?_foldl_of_apart {i : Nat}
    (h : ∀ q ∈ ps, (0 < q.line ∧ q.line ≤ lines.length) ∧ q.line ≠ i + 1) :
    (ps.foldl (replaceLine name) lines)[i]? = lines[i]? := by
  induction ps generalizing lines with
  | nil => rfl
  | cons p ps ih =>
    obtain ⟨⟨hNumber, hApart⟩, hRest⟩ := List.forall_mem_cons.mp h
    have hPlace : (p.line - 1).toNat ≠ i := by omega
    rw [List.foldl_cons, replaceLine_of_overwrites (effect_eq_overwrites_iff.mpr hNumber), ih,
      List.getElem?_set_ne hPlace]
    intro q hq
    rw [List.length_set]
    exact hRest q hq

/-- If the patches before it moved no line, the last patch with the number of a line has the
last word on it. -/
theorem getElem?_linesAfter {i : Nat} (h : drift? name (Text.lines script) ps = some 0)
    (hi : i < (Text.lines script).length) (hLine : p.line = i + 1)
    (hLast : ∀ q ∈ qs, (0 < q.line ∧ q.line ≤ (Text.lines script).length) ∧ q.line ≠ i + 1) :
    (linesAfter name script (ps ++ p :: qs))[i]? = some p.fixed := by
  have hSplit : ps ++ p :: qs = (ps ++ [p]) ++ qs := by simp
  have hOwn : ReplacesOwn name script ps p i := (replacesOwn_iff hLine).mpr (place?_of_drift? h hi)
  -- the last line of the script is where it was, so there is room for every number
  obtain ⟨t, hBottom⟩ := place?_of_drift? h (Nat.sub_lt (Nat.zero_lt_of_lt hi) Nat.one_pos)
  have hBottom := (List.getElem?_eq_some_iff.mp (getElem?_of_place? hBottom)).1
  have hRoom : (Text.lines script).length ≤ (linesAfter name script (ps ++ [p])).length := by
    rw [hOwn.lines, List.length_set]
    dsimp only at hBottom
    omega
  rw [hSplit, linesAfter_append, getElem?_foldl_of_apart, getElem?_of_place? hOwn.own]
  intro q hq
  obtain ⟨⟨hPos, hLe⟩, hApart⟩ := hLast q hq
  exact ⟨⟨hPos, by omega⟩, hApart⟩

/-- **What the numbers mean.** Behind any patches, every line of the script is followed to the
place where it stands, unless it was split or joined to others, and the lines keep their
order. A patch with the number of a line of the script replaces that line, and touches no
other, exactly if the line has the place it had in the script. Where all lines are moved
alike, they are off by one for every declaration; and where they are not moved, the last
patch with the number of a line has the last word on it. -/
theorem replaceLines_numbering (name script : Text) (ps : List LinePatch) :
    replaceLines name script ps = Text.unlines (linesAfter name script ps) ∧
    (∀ i s, place? name script ps i = some s →
      (linesAfter name script ps)[s.index]? = some s.text) ∧
    (∀ i j s u, i < j → place? name script ps i = some s → place? name script ps j = some u →
      s.index < u.index) ∧
    (∀ (p : LinePatch) (i : Nat), p.line = i + 1 →
      (ReplacesOwn name script ps p i ↔ ∃ t, place? name script ps i = some ⟨i, t⟩)) ∧
    (∀ d, drift? name (Text.lines script) ps = some d → ∀ i < (Text.lines script).length,
      ∃ t, place? name script ps i = some ⟨i + d, t⟩) ∧
    (drift? name (Text.lines script) ps = some 0 →
      ∀ (p : LinePatch) (qs : List LinePatch), ∀ i < (Text.lines script).length,
        p.line = i + 1 →
        (∀ q ∈ qs, (0 < q.line ∧ q.line ≤ (Text.lines script).length) ∧ q.line ≠ i + 1) →
        (linesAfter name script (ps ++ p :: qs))[i]? = some p.fixed) :=
  ⟨rfl, fun _ _ h => getElem?_of_place? h, fun _ _ _ _ hij hi hj => place?_lt hij hi hj,
    fun _ _ hLine => replacesOwn_iff hLine, fun _ hDrift _ hi => place?_of_drift? hDrift hi,
    fun hDrift _ _ _ hi hLine hLast => getElem?_linesAfter hDrift hi hLine hLast⟩

/-- A declaration moves the lines, and the number of the first line is its number now. -/
example : linesAfter "x".toList "a\nb".toList [⟨0, [], [], []⟩, ⟨1, [], "y".toList, []⟩] =
    ["y".toList, "a".toList, "b".toList] := by
  decide

end Pass

end SketchRepair
