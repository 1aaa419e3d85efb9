import SketchRepair.Proofs.Script.Nesting
import SketchRepair.Script.Paren

/-!
# SketchRepair — unmatched parentheses, without a stack

A text falls apart at its unmatched parentheses: between them, before and behind them
it is balanced, and every stray `)` comes before every `(` that is left open.
`Unmatched` says this by rules, with the offsets of the unmatched parentheses. The
scan with its stack finds exactly these.

* `unmatchedFrom_append` — a balanced text leaves the stack of the scan as it was;
* `unmatchedFrom_unmatched` — what the scan reports is what the rules say;
* `parenIssues_unmatched` — the same for a script that is no shader code;
* `Unmatched.ascending` — the reports are in ascending order;
* `balanced_of_parenIssues_eq_nil`, `parenIssues_of_balanced` — no report means
  balanced.
-/

namespace SketchRepair

namespace Script

/-- The parentheses of the text are balanced. -/
abbrev Balanced (t : Text) : Prop := Nested '(' ')' t

/-- A text from offset `i` on in which exactly the opening parentheses at the offsets
`js` are unmatched. -/
inductive LeftOpen : Nat → Text → List Nat → Prop where
  /-- Nothing is unmatched. -/
  | none {i : Nat} {b : Text} (hBalanced : Balanced b) : LeftOpen i b []
  /-- The first one stands behind a balanced text. -/
  | some {i j : Nat} {b t : Text} {js : List Nat} (hBalanced : Balanced b)
      (hPlace : j = i + b.length) (hRest : LeftOpen (j + 1) t js) :
      LeftOpen i (b ++ '(' :: t) (j :: js)

/-- A text from offset `i` on with its unmatched parentheses. -/
inductive Unmatched : Nat → Text → List ParenIssue → Prop where
  /-- Some are left open, none is stray. -/
  | opens {i : Nat} {t : Text} {js : List Nat} (hOpen : LeftOpen i t js) :
      Unmatched i t (js.map fun (j : Nat) => ⟨.missingClose, (j : Int)⟩)
  /-- The first one is stray and stands behind a balanced text. -/
  | stray {i j : Nat} {b t : Text} {issues : List ParenIssue} (hBalanced : Balanced b)
      (hPlace : j = i + b.length) (hRest : Unmatched (j + 1) t issues) :
      Unmatched i (b ++ ')' :: t) (⟨.extraClose, (j : Int)⟩ :: issues)

-- ---------------------------------------------------------------------------
-- Every text is of that form
-- ---------------------------------------------------------------------------

variable {i : Nat} {a b t : Text} {js : List Nat} {issues : List ParenIssue}

theorem LeftOpen.prepend (ha : Balanced a) (h : LeftOpen (i + a.length) t js) :
    LeftOpen i (a ++ t) js := by
  cases h with
  | none hb => exact .none (ha.append hb)
  | some hb hPlace hRest =>
    rw [← List.append_assoc]
    refine .some (ha.append hb) ?_ hRest
    rw [hPlace, List.length_append]
    omega

theorem Unmatched.prepend (ha : Balanced a) (h : Unmatched (i + a.length) t issues) :
    Unmatched i (a ++ t) issues := by
  cases h with
  | opens hOpen => exact .opens (hOpen.prepend ha)
  | stray hb hPlace hRest =>
    rw [← List.append_assoc]
    refine .stray (ha.append hb) ?_ hRest
    rw [hPlace, List.length_append]
    omega

theorem exists_unmatched (t : Text) : ∀ (i : Nat), ∃ issues, Unmatched i t issues := by
  induction t with
  | nil =>
    intro i
    exact ⟨[], .opens (.none nested_nil)⟩
  | cons x t ih =>
    intro i
    by_cases hClose : x = ')'
    · subst hClose
      obtain ⟨issues, h⟩ := ih (i + 1)
      exact ⟨_, .stray nested_nil rfl h⟩
    by_cases hOpen : x = '('
    · subst hOpen
      obtain ⟨issues, h⟩ := ih (i + 1)
      cases h with
      | opens hLeft => exact ⟨_, .opens (.some nested_nil rfl hLeft)⟩
      | @stray _ j b t issues hb hPlace hRest =>
        -- the first stray one closes the one in front
        have hPair : Balanced ('(' :: (b ++ [')'])) := by
          refine Nested.close (by decide) ?_
          rw [List.append_nil]
          exact hb
        have hText : '(' :: (b ++ ')' :: t) = '(' :: (b ++ [')']) ++ t := by simp
        rw [hText]
        refine ⟨issues, Unmatched.prepend hPair ?_⟩
        rw [show i + ('(' :: (b ++ [')'])).length = j + 1 by simp; omega]
        exact hRest
    · obtain ⟨issues, h⟩ := ih (i + 1)
      have hx : Balanced [x] := nested_nil.cons_of_ne hOpen hClose
      exact ⟨issues, Unmatched.prepend hx h⟩

-- ---------------------------------------------------------------------------
-- The scan
-- ---------------------------------------------------------------------------

theorem unmatchedFrom_open (i : Nat) (opened : List Nat) (t : Text) :
    unmatchedFrom i opened ('(' :: t) = unmatchedFrom (i + 1) (i :: opened) t := by
  simp [unmatchedFrom]

theorem unmatchedFrom_close (i j : Nat) (opened : List Nat) (t : Text) :
    unmatchedFrom i (j :: opened) (')' :: t) = unmatchedFrom (i + 1) opened t := by
  simp [unmatchedFrom]

theorem unmatchedFrom_stray (i : Nat) (t : Text) :
    unmatchedFrom i [] (')' :: t) = ⟨.extraClose, (i : Int)⟩ :: unmatchedFrom (i + 1) [] t := by
  simp [unmatchedFrom]

theorem unmatchedFrom_other {x : Char} (hOpen : x ≠ '(') (hClose : x ≠ ')') (i : Nat)
    (opened : List Nat) (t : Text) :
    unmatchedFrom i opened (x :: t) = unmatchedFrom (i + 1) opened t := by
  simp [unmatchedFrom, hOpen, hClose]

/-- Behind a text that closes just the innermost `own` of the open parentheses and
its own ones, the scan goes on with the others. -/
theorem unmatchedFrom_append_of_closes (b : Text) : ∀ (i : Nat) (own : List Nat),
    (∀ p, p <+: b → p.count ')' ≤ own.length + p.count '(') →
    b.count ')' = own.length + b.count '(' →
    ∀ (opened : List Nat) (t : Text),
      unmatchedFrom i (own ++ opened) (b ++ t) = unmatchedFrom (i + b.length) opened t := by
  induction b with
  | nil =>
    intro i own _ hClosed opened t
    have hNil : own = [] := List.length_eq_zero_iff.mp (by simpa using hClosed.symm)
    rw [hNil]
    rfl
  | cons x b ih =>
    intro i own hPrefix hClosed opened t
    have hTail : ∀ p, p <+: b → (x :: p).count ')' ≤ own.length + (x :: p).count '(' :=
      fun p hp => hPrefix (x :: p) (List.cons_prefix_cons.mpr ⟨rfl, hp⟩)
    rw [List.cons_append, List.length_cons, Nat.add_comm b.length, ← Nat.add_assoc]
    by_cases hOpen : x = '('
    · subst hOpen
      rw [unmatchedFrom_open]
      refine ih (i + 1) (i :: own) ?_ ?_ opened t
      · intro p hp
        have := hTail p hp
        simp at this ⊢
        omega
      · simp at hClosed ⊢
        omega
    · by_cases hClose : x = ')'
      · subst hClose
        cases own with
        | nil =>
          have := hTail [] List.nil_prefix
          simp at this
        | cons j own =>
          rw [List.cons_append, unmatchedFrom_close]
          refine ih (i + 1) own ?_ ?_ opened t
          · intro p hp
            have := hTail p hp
            simp at this ⊢
            omega
          · simp at hClosed ⊢
            omega
      · rw [unmatchedFrom_other hOpen hClose]
        refine ih (i + 1) own ?_ ?_ opened t
        · intro p hp
          have := hTail p hp
          rwa [List.count_cons_of_ne hClose, List.count_cons_of_ne hOpen] at this
        · rwa [List.count_cons_of_ne hClose, List.count_cons_of_ne hOpen] at hClosed

/-- Behind a balanced text the scan goes on as if it had not been there. -/
theorem unmatchedFrom_append (hb : Balanced b) (i : Nat) (opened : List Nat) (t : Text) :
    unmatchedFrom i opened (b ++ t) = unmatchedFrom (i + b.length) opened t := by
  refine unmatchedFrom_append_of_closes b i [] ?_ ?_ opened t
  · intro p hp
    have := hb.opened p hp
    simpa using this
  · simpa using hb.closed

theorem LeftOpen.unmatchedFrom_eq (h : LeftOpen i t js) : ∀ (opened : List Nat),
    unmatchedFrom i opened t =
      (opened.reverse ++ js).map fun (j : Nat) => ⟨.missingClose, (j : Int)⟩ := by
  induction h with
  | @none i b hb =>
    intro opened
    have := unmatchedFrom_append hb i opened []
    rw [List.append_nil] at this
    rw [this, unmatchedFrom, List.append_nil]
  | some hb hPlace _ ih =>
    intro opened
    rw [unmatchedFrom_append hb, ← hPlace, unmatchedFrom_open, ih]
    simp

theorem Unmatched.unmatchedFrom_eq (h : Unmatched i t issues) : unmatchedFrom i [] t = issues := by
  induction h with
  | opens hOpen => rw [hOpen.unmatchedFrom_eq, List.reverse_nil, List.nil_append]
  | stray hb hPlace _ ih =>
    rw [unmatchedFrom_append hb, ← hPlace, unmatchedFrom_stray, ih]

/-- What the scan reports is what is unmatched. -/
theorem unmatchedFrom_unmatched (i : Nat) (t : Text) : Unmatched i t (unmatchedFrom i [] t) := by
  obtain ⟨issues, h⟩ := exists_unmatched t i
  rw [h.unmatchedFrom_eq]
  exact h

-- ---------------------------------------------------------------------------
-- Order
-- ---------------------------------------------------------------------------

theorem LeftOpen.ascending (h : LeftOpen i t js) :
    (∀ j ∈ js, i ≤ j) ∧ js.Pairwise (· < ·) := by
  induction h with
  | none => simp
  | some hb hPlace _ ih =>
    refine ⟨?_, List.pairwise_cons.mpr ⟨?_, ih.2⟩⟩
    · intro k hk
      rcases List.mem_cons.mp hk with rfl | hk'
      · omega
      · have := ih.1 k hk'
        omega
    · intro k hk
      have := ih.1 k hk
      omega

/-- The reports come in strictly ascending order. -/
theorem Unmatched.ascending (h : Unmatched i t issues) :
    (∀ x ∈ issues, (i : Int) ≤ x.index) ∧ issues.Pairwise fun x y => x.index < y.index := by
  induction h with
  | opens hOpen =>
    obtain ⟨hFrom, hOrder⟩ := hOpen.ascending
    refine ⟨?_, List.pairwise_map.mpr (hOrder.imp fun hjk => Int.ofNat_lt.mpr hjk)⟩
    intro x hx
    obtain ⟨j, hj, rfl⟩ := List.mem_map.mp hx
    exact Int.ofNat_le.mpr (hFrom j hj)
  | stray hb hPlace _ ih =>
    refine ⟨?_, List.pairwise_cons.mpr ⟨?_, ih.2⟩⟩
    · intro x hx
      rcases List.mem_cons.mp hx with rfl | hx'
      · exact Int.ofNat_le.mpr (by omega)
      · have := ih.1 x hx'
        omega
    · intro x hx
      exact Int.lt_of_lt_of_le (Int.ofNat_lt.mpr (Nat.lt_succ_self _)) (ih.1 x hx)

-- ---------------------------------------------------------------------------
-- No report
-- ---------------------------------------------------------------------------

theorem Unmatched.balanced (h : Unmatched i t []) : Balanced t := by
  generalize hNil : ([] : List ParenIssue) = issues at h
  cases h with
  | opens hOpen =>
    cases hOpen with
    | none hb => exact hb
    | some => simp at hNil
  | stray => simp at hNil

/-- What is reported for a script that is no shader code is what is unmatched. -/
theorem parenIssues_unmatched (hShader : isShader t = false) : Unmatched 0 t (parenIssues t) := by
  rw [parenIssues, hShader, if_neg (by simp)]
  exact unmatchedFrom_unmatched 0 t

/-- Where nothing is reported but in shader code, the parentheses are balanced. -/
theorem balanced_of_parenIssues_eq_nil (hShader : isShader t = false)
    (h : parenIssues t = []) : Balanced t := by
  have hUnmatched := parenIssues_unmatched hShader
  rw [h] at hUnmatched
  exact hUnmatched.balanced

/-- In a balanced text nothing is reported. -/
theorem parenIssues_of_balanced (h : Balanced t) : parenIssues t = [] := by
  rw [parenIssues]
  split
  · rfl
  · exact (Unmatched.opens (.none h)).unmatchedFrom_eq

end Script

end SketchRepair
