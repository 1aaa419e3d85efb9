import SketchRepair.Proofs.Script.Matching

/-!
# SketchRepair — what the scan for parentheses reports

The scan keeps a stack of offsets; which parentheses match each other was said without
one, by balanced texts between them. The two agree: what the scan reports is what has no
partner, every one of them and nothing else. The text falls apart at the reports, and at
each of them the part in front stands apart from what follows, so the partners of a
parenthesis are to be looked for in its own part only.

* `lone_close_iff`, `lone_open_iff` — to have no partner, said from either side;
* `mem_cons_iff_lone` — one report, and those behind it;
* `Unmatched.mem_iff_lone` — all reports;
* `parenIssues_lone` — **what is reported, and in which order**.
-/

namespace SketchRepair

namespace Script

/-- The parenthesis that has no partner. -/
def ParenFault.char : ParenFault → Char
  | missingClose => '('
  | extraClose => ')'

variable {b t : Text} {i j k : Nat} {js : List Nat} {issues : List ParenIssue} {f g : ParenFault}

-- ---------------------------------------------------------------------------
-- Without a partner
-- ---------------------------------------------------------------------------

/-- A closing parenthesis has no partner when none before it is one. -/
theorem lone_close_iff : Lone ')' t k ↔ t[k]? = some ')' ∧ ∀ i, ¬ Paired t i k := by
  constructor
  · rintro ⟨hAt, hNone⟩
    exact ⟨hAt, fun i h => (hNone i k h).2 rfl⟩
  · rintro ⟨hAt, hNone⟩
    refine ⟨hAt, fun i j h => ⟨?_, ?_⟩⟩
    · rintro rfl
      rw [h.getElem?.1] at hAt
      exact absurd hAt (by decide)
    · rintro rfl
      exact hNone i h

/-- An opening parenthesis has no partner when none behind it is one. -/
theorem lone_open_iff : Lone '(' t k ↔ t[k]? = some '(' ∧ ∀ j, ¬ Paired t k j := by
  constructor
  · rintro ⟨hAt, hNone⟩
    exact ⟨hAt, fun j h => (hNone k j h).1 rfl⟩
  · rintro ⟨hAt, hNone⟩
    refine ⟨hAt, fun i j h => ⟨?_, ?_⟩⟩
    · rintro rfl
      exact hNone j h
    · rintro rfl
      rw [h.getElem?.2] at hAt
      exact absurd hAt (by decide)

theorem Balanced.not_lone (h : Balanced t) : ¬ Lone f.char t k := by
  cases f with
  | missingClose => exact h.not_lone_open
  | extraClose => exact h.not_lone_close

theorem ParenFault.char_inj : f.char = g.char ↔ f = g := by
  cases f <;> cases g <;> decide

/-- Behind a balanced text a parenthesis has no partner, or something further on has none. -/
theorem lone_behind_iff (hb : Balanced b) (hApart : Apart [g.char] t) :
    Lone f.char (b ++ g.char :: t) k ↔ (f.char = g.char ∧ k = b.length) ∨
      ∃ k', k = b.length + (1 + k') ∧ Lone f.char t k' := by
  show Lone f.char (b ++ ([g.char] ++ t)) k ↔ _
  rw [lone_append_iff (apart_of_balanced hb _), or_iff_right hb.not_lone]
  simp only [lone_append_iff hApart, lone_singleton_iff, List.length_singleton]
  constructor
  · rintro ⟨k', rfl, ⟨hChar, rfl⟩ | ⟨k'', rfl, hLone⟩⟩
    · exact .inl ⟨hChar, rfl⟩
    · exact .inr ⟨k'', rfl, hLone⟩
  · rintro (⟨hChar, rfl⟩ | ⟨k', rfl, hLone⟩)
    · exact ⟨0, rfl, .inl ⟨hChar, rfl⟩⟩
    · exact ⟨1 + k', rfl, .inr ⟨k', rfl, hLone⟩⟩

-- ---------------------------------------------------------------------------
-- The reports
-- ---------------------------------------------------------------------------

/-- A report behind a balanced text, and those further on: what has no partner is the
parenthesis reported, or has none in what follows it. -/
theorem mem_cons_iff_lone (hb : Balanced b) (hPlace : j = i + b.length)
    (hApart : Apart [g.char] t) (hFrom : ∀ x ∈ issues, ((j + 1 : Nat) : Int) ≤ x.index)
    (hRest : ∀ k, (⟨f, ((j + 1 + k : Nat) : Int)⟩ : ParenIssue) ∈ issues ↔ Lone f.char t k) :
    (⟨f, ((i + k : Nat) : Int)⟩ : ParenIssue) ∈ (⟨g, (j : Int)⟩ :: issues : List ParenIssue) ↔
      Lone f.char (b ++ g.char :: t) k := by
  rw [lone_behind_iff hb hApart, List.mem_cons, ParenIssue.mk.injEq, Int.natCast_inj]
  refine or_congr ?_ ?_
  · rw [ParenFault.char_inj]
    exact and_congr_right fun _ => by omega
  · constructor
    · intro hMem
      have hBehind := hFrom _ hMem
      obtain ⟨k', hk⟩ := Nat.exists_eq_add_of_le (show j + 1 ≤ i + k from Int.ofNat_le.mp hBehind)
      exact ⟨k', by omega, (hRest k').mp (hk ▸ hMem)⟩
    · rintro ⟨k', rfl, hLone⟩
      have hSame : i + (b.length + (1 + k')) = j + 1 + k' := by omega
      rw [hSame]
      exact (hRest k').mpr hLone

theorem LeftOpen.mem_iff_lone (h : LeftOpen i t js) : ∀ k,
    (⟨f, ((i + k : Nat) : Int)⟩ : ParenIssue) ∈
      (js.map fun (j : Nat) => (⟨.missingClose, (j : Int)⟩ : ParenIssue)) ↔
        Lone f.char t k := by
  induction h with
  | none hb =>
    intro k
    exact iff_of_false (by simp) hb.not_lone
  | some hb hPlace hRest ih =>
    intro k
    refine mem_cons_iff_lone (g := .missingClose) hb hPlace (apart_open hRest.opened) ?_ ih
    exact (Unmatched.opens hRest).ascending.1

/-- What is reported is what has no partner. -/
theorem Unmatched.mem_iff_lone (h : Unmatched i t issues) : ∀ k,
    (⟨f, ((i + k : Nat) : Int)⟩ : ParenIssue) ∈ issues ↔ Lone f.char t k := by
  induction h with
  | opens hOpen => exact hOpen.mem_iff_lone
  | stray hb hPlace hRest ih =>
    intro k
    exact mem_cons_iff_lone (g := .extraClose) hb hPlace (apart_close _) hRest.ascending.1 ih

/-- Stray parentheses are reported before those left open. -/
theorem Unmatched.strays_then_opens (h : Unmatched i t issues) : ∃ strays opens,
    issues = strays ++ opens ∧ (∀ x ∈ strays, x.fault = .extraClose) ∧
      ∀ x ∈ opens, x.fault = .missingClose := by
  induction h with
  | @opens i t js hOpen =>
    refine ⟨[], _, rfl, by simp, fun x hx => ?_⟩
    obtain ⟨j, -, rfl⟩ := List.mem_map.mp hx
    rfl
  | @stray i j b t issues _ _ _ ih =>
    obtain ⟨strays, opens, rfl, hStrays, hOpens⟩ := ih
    exact ⟨⟨.extraClose, j⟩ :: strays, opens, rfl, List.forall_mem_cons.mpr ⟨rfl, hStrays⟩, hOpens⟩

theorem mem_parenIssues_iff {source : Text} (hShader : isShader source = false) {k : Int} :
    (⟨f, k⟩ : ParenIssue) ∈ parenIssues source ↔ ∃ i : Nat, k = i ∧ Lone f.char source i := by
  have hUnmatched := parenIssues_unmatched hShader
  have hMem (i : Nat) := hUnmatched.mem_iff_lone (f := f) i
  simp only [Nat.zero_add] at hMem
  constructor
  · intro h
    obtain ⟨i, rfl⟩ := Int.eq_ofNat_of_zero_le (hUnmatched.ascending.1 _ h)
    exact ⟨i, rfl, (hMem i).mp h⟩
  · rintro ⟨i, rfl, hLone⟩
    exact (hMem i).mpr hLone

/-- **What is reported.** In a script that is no shader code the reports are in ascending
order, with every stray parenthesis before every one left open. A `)` is reported exactly
if it matches none before it, and a `(` exactly if it matches none behind it; nothing else
is reported, and nothing at all exactly if the parentheses are balanced. -/
theorem parenIssues_lone {source : Text} (hShader : isShader source = false) :
    ((parenIssues source).Pairwise fun x y => x.index < y.index) ∧
      (∃ strays opens, parenIssues source = strays ++ opens ∧
        (∀ x ∈ strays, x.fault = .extraClose) ∧ ∀ x ∈ opens, x.fault = .missingClose) ∧
      (∀ k : Int, ⟨.extraClose, k⟩ ∈ parenIssues source ↔
        ∃ i : Nat, k = i ∧ source[i]? = some ')' ∧ ∀ j, ¬ Paired source j i) ∧
      (∀ k : Int, ⟨.missingClose, k⟩ ∈ parenIssues source ↔
        ∃ i : Nat, k = i ∧ source[i]? = some '(' ∧ ∀ j, ¬ Paired source i j) ∧
      (parenIssues source = [] ↔ Balanced source) := by
  have hUnmatched := parenIssues_unmatched hShader
  refine ⟨hUnmatched.ascending.2, hUnmatched.strays_then_opens, fun k => ?_, fun k => ?_,
    balanced_of_parenIssues_eq_nil hShader, parenIssues_of_balanced⟩
  · rw [mem_parenIssues_iff hShader]
    simp only [ParenFault.char, lone_close_iff]
  · rw [mem_parenIssues_iff hShader]
    simp only [ParenFault.char, lone_open_iff]

/-- A script with a stray parenthesis, and a call left open around one that is closed. -/
def strayBeforeCall : Text := "a); f(g(1);".toList

theorem parenIssues_lone_strayBeforeCall : isShader strayBeforeCall = false ∧
    parenIssues strayBeforeCall = [⟨.extraClose, 1⟩, ⟨.missingClose, 5⟩] ∧
    (∀ j, ¬ Paired strayBeforeCall j 1) ∧ ∀ j, ¬ Paired strayBeforeCall 5 j := by
  have hShader : isShader strayBeforeCall = false := by decide
  have hIssues : parenIssues strayBeforeCall = [⟨.extraClose, 1⟩, ⟨.missingClose, 5⟩] := by decide
  obtain ⟨-, -, hStray, hOpen, -⟩ := parenIssues_lone hShader
  obtain ⟨i, hi, -, hNoneBefore⟩ := (hStray 1).mp (by simp [hIssues])
  obtain ⟨k, hk, -, hNoneBehind⟩ := (hOpen 5).mp (by simp [hIssues])
  obtain rfl : i = 1 := by omega
  obtain rfl : k = 5 := by omega
  exact ⟨hShader, hIssues, hNoneBefore, hNoneBehind⟩

end Script

end SketchRepair
