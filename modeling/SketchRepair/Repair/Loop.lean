/-!
# SketchRepair — loops without a bound

A loop goes from state to state until a step of it yields something. Nothing says how many
steps that takes, and it need not happen at all. What a loop yields is unique, so the
search for it may go on for as long as it takes: whatever the search comes to carries the
proof that it is right.

* `Yields.unique` — a loop yields one thing at most;
* `outcome` — the search, which takes one step after the other;
* `run_eq_some_iff` — what comes of a loop;
* `run_of_inr`, `run_of_inl` — a loop whose first step is known;
* `run_map` — a loop that follows another one.
-/

namespace SketchRepair

namespace Loop

variable {σ τ α β : Type} {step : σ → σ ⊕ α} {s s' : σ} {a b : α}

/-- From the state `s` on, the loop comes to yield `a`. -/
inductive Yields (step : σ → σ ⊕ α) : σ → α → Prop where
  | now {s : σ} {a : α} (h : step s = .inr a) : Yields step s a
  | later {s s' : σ} {a : α} (h : step s = .inl s') (hLater : Yields step s' a) : Yields step s a

theorem yields_iff_of_inr (h : step s = .inr a) : Yields step s b ↔ a = b := by
  constructor
  · intro hYields
    cases hYields with
    | now h' => exact Sum.inr.inj (h.symm.trans h')
    | later h' => exact absurd (h.symm.trans h') (by simp)
  · rintro rfl
    exact .now h

theorem yields_iff_of_inl (h : step s = .inl s') : Yields step s b ↔ Yields step s' b := by
  constructor
  · intro hYields
    cases hYields with
    | now h' => exact absurd (h.symm.trans h') (by simp)
    | later h' hLater =>
      obtain rfl := Sum.inl.inj (h.symm.trans h')
      exact hLater
  · exact .later h

theorem Yields.unique (h : Yields step s a) (h' : Yields step s b) : a = b := by
  induction h with
  | now h => exact (yields_iff_of_inr h).mp h'
  | later h _ ih => exact ih ((yields_iff_of_inl h).mp h')

/-- What comes of a loop from a state on: what it yields, if it yields anything. -/
structure Outcome (step : σ → σ ⊕ α) (s : σ) where
  value : Option α
  value_eq_some_iff (a : α) : value = some a ↔ Yields step s a

namespace Outcome

def ofInr (h : step s = .inr a) : Outcome step s where
  value := some a
  value_eq_some_iff _ := Option.some_inj.trans (yields_iff_of_inr h).symm

def ofInl (h : step s = .inl s') (behind : Outcome step s') : Outcome step s where
  value := behind.value
  value_eq_some_iff a := (behind.value_eq_some_iff a).trans (yields_iff_of_inl h).symm

instance : Nonempty (Outcome step s) := by
  by_cases h : ∃ a, Yields step s a
  · obtain ⟨a, hYields⟩ := h
    refine ⟨⟨some a, fun b => ⟨?_, fun hOther => congrArg some (hYields.unique hOther)⟩⟩⟩
    rintro ⟨⟩
    exact hYields
  · refine ⟨⟨none, fun a => ⟨fun hNone => absurd hNone (by simp), ?_⟩⟩⟩
    exact fun hYields => absurd ⟨a, hYields⟩ h

end Outcome

/-- Looks for what a loop yields from a state on. The search has no bound; the type of what
it comes to says what that is. -/
def outcome (step : σ → σ ⊕ α) : (s : σ) → Outcome step s :=
  WellFounded.extrinsicFix (fun s' s => step s = .inl s') fun s behind =>
    match h : step s with
    | .inr _ => .ofInr h
    | .inl s' => .ofInl h (behind s' h)

/-- What a loop yields from a state on; nothing if it does not end. -/
def run (step : σ → σ ⊕ α) (s : σ) : Option α := (outcome step s).value

theorem run_eq_some_iff : run step s = some a ↔ Yields step s a :=
  (outcome step s).value_eq_some_iff a

theorem run_of_inr (h : step s = .inr a) : run step s = some a :=
  run_eq_some_iff.mpr (.now h)

theorem run_of_inl (h : step s = .inl s') : run step s = run step s' := by
  refine Option.ext fun a => ?_
  rw [run_eq_some_iff, run_eq_some_iff, yields_iff_of_inl h]

/-- A loop that follows another one step by step yields what follows from what the other one
yields. -/
theorem run_map {next : τ → τ ⊕ β} {f : σ → τ} {g : α → β}
    (h : ∀ s, next (f s) = (step s).map f g) (s : σ) : run next (f s) = (run step s).map g := by
  refine Option.ext fun b => ?_
  rw [run_eq_some_iff, Option.map_eq_some_iff]
  constructor
  · intro hYields
    obtain ⟨t, ht⟩ : ∃ t, t = f s := ⟨_, rfl⟩
    rw [← ht] at hYields
    induction hYields generalizing s with
    | now hNext =>
      cases hStep : step s with
      | inl s' =>
        rw [ht, h, hStep] at hNext
        exact absurd hNext (by simp)
      | inr a =>
        rw [ht, h, hStep] at hNext
        exact ⟨a, run_of_inr hStep, Sum.inr.inj hNext⟩
    | later hNext _ ih =>
      cases hStep : step s with
      | inl s' =>
        rw [ht, h, hStep] at hNext
        rw [run_of_inl hStep]
        exact ih s' (Sum.inl.inj hNext).symm
      | inr a =>
        rw [ht, h, hStep] at hNext
        exact absurd hNext (by simp)
  · rintro ⟨a, hRun, rfl⟩
    induction run_eq_some_iff.mp hRun with
    | now hStep => exact .now (by rw [h, hStep, Sum.map_inr])
    | later hStep hLater ih =>
      exact .later (by rw [h, hStep, Sum.map_inl]) (ih (run_eq_some_iff.mpr hLater))

end Loop

end SketchRepair
