import Mathlib.Order.Bounds.Basic
import SketchRepair.Proofs.Script.ParenRepair

/-!
# SketchRepair — mechanical repair is as short as can be

To balance the parentheses of a script, some are put in and some are taken out. What the
mechanical repair does, one such edit for each report, cannot be done with fewer: every
edit, wherever it is made, changes the number of parentheses without a partner by just
one, and in a balanced text there are none.

That number is counted without offsets, because an edit moves all offsets behind it. It
only matters how many parentheses are open before a text, and one more of them makes a
difference of one.

* `length_unmatchedFrom` — the count is the number of reports;
* `loneCount_succ`, `loneCount_edit` — what one more open parenthesis, or one edit,
  makes of it;
* `ParenEdits.loneCount_le` — what several edits make of it;
* `parenEdits_stitches` — the mechanical repair as edits;
* `parenIssues_isLeast` — **no fewer edits balance a script than there are reports**.
-/

namespace SketchRepair

namespace Script

/-- Is the character a parenthesis? -/
def isParen (c : Char) : Bool := c == '(' || c == ')'

/-- The parentheses of a text, in their order. -/
def parens (t : Text) : Text := t.filter isParen

/-- One parenthesis is put in somewhere, or taken out. -/
inductive ParenEdit : Text → Text → Prop where
  | insert {c : Char} (a b : Text) (hParen : isParen c = true) : ParenEdit (a ++ b) (a ++ c :: b)
  | delete {c : Char} (a b : Text) (hParen : isParen c = true) : ParenEdit (a ++ c :: b) (a ++ b)

/-- So many edits, one after the other. -/
inductive ParenEdits : Nat → Text → Text → Prop where
  | none {t : Text} : ParenEdits 0 t t
  | step {n : Nat} {t u v : Text} (hFirst : ParenEdit t u) (hRest : ParenEdits n u v) :
      ParenEdits (n + 1) t v

/-- The number of parentheses without a partner, in a text with so many open before it and
these together. -/
def loneCount : (opened : Nat) → Text → Nat
  | opened, [] => opened
  | opened, c :: t =>
    if c = '(' then loneCount (opened + 1) t
    else if c = ')' then
      match opened with
      | 0 => loneCount 0 t + 1
      | outer + 1 => loneCount outer t
    else loneCount opened t

variable {n : Nat} {t u : Text} {c : Char}

-- ---------------------------------------------------------------------------
-- Counting
-- ---------------------------------------------------------------------------

theorem loneCount_open (opened : Nat) (t : Text) :
    loneCount opened ('(' :: t) = loneCount (opened + 1) t := by
  simp [loneCount]

theorem loneCount_stray (t : Text) : loneCount 0 (')' :: t) = loneCount 0 t + 1 := by
  simp [loneCount]

theorem loneCount_close (outer : Nat) (t : Text) :
    loneCount (outer + 1) (')' :: t) = loneCount outer t := by
  simp [loneCount]

theorem loneCount_other (hOpen : c ≠ '(') (hClose : c ≠ ')') (opened : Nat) (t : Text) :
    loneCount opened (c :: t) = loneCount opened t := by
  simp [loneCount, hOpen, hClose]

/-- A character opens, closes, or does not count. -/
theorem paren_cases (c : Char) : c = '(' ∨ c = ')' ∨ (c ≠ '(' ∧ c ≠ ')') := by
  by_cases hOpen : c = '('
  · exact .inl hOpen
  · by_cases hClose : c = ')'
    · exact .inr (.inl hClose)
    · exact .inr (.inr ⟨hOpen, hClose⟩)

/-- The count is the number of reports. -/
theorem length_unmatchedFrom (t : Text) : ∀ (i : Nat) (opened : List Nat),
    (unmatchedFrom i opened t).length = loneCount opened.length t := by
  induction t with
  | nil =>
    intro i opened
    rw [unmatchedFrom, List.length_map, List.length_reverse, loneCount]
  | cons c t ih =>
    intro i opened
    rcases paren_cases c with rfl | rfl | ⟨hOpen, hClose⟩
    · rw [unmatchedFrom_open, ih, loneCount_open, List.length_cons]
    · cases opened with
      | nil => rw [unmatchedFrom_stray, List.length_cons, ih, List.length_nil, loneCount_stray]
      | cons j opened => rw [unmatchedFrom_close, ih, List.length_cons, loneCount_close]
    · rw [unmatchedFrom_other hOpen hClose, ih, loneCount_other hOpen hClose]

/-- Only parentheses count. -/
theorem loneCount_parens (t : Text) : ∀ opened : Nat,
    loneCount opened (parens t) = loneCount opened t := by
  induction t with
  | nil =>
    intro opened
    rfl
  | cons c t ih =>
    intro opened
    rcases paren_cases c with rfl | rfl | ⟨hOpen, hClose⟩
    · show loneCount opened ('(' :: parens t) = _
      rw [loneCount_open, loneCount_open, ih]
    · show loneCount opened (')' :: parens t) = _
      cases opened with
      | zero => rw [loneCount_stray, loneCount_stray, ih]
      | succ outer => rw [loneCount_close, loneCount_close, ih]
    · rw [parens, List.filter_cons_of_neg (by simp [isParen, hOpen, hClose]),
        loneCount_other hOpen hClose]
      exact ih opened

/-- One more open parenthesis gives one more without a partner, or is the partner of one. -/
theorem loneCount_succ (t : Text) : ∀ opened : Nat,
    loneCount (opened + 1) t = loneCount opened t + 1 ∨
      loneCount opened t = loneCount (opened + 1) t + 1 := by
  induction t with
  | nil =>
    intro opened
    exact .inl rfl
  | cons c t ih =>
    intro opened
    rcases paren_cases c with rfl | rfl | ⟨hOpen, hClose⟩
    · rw [loneCount_open, loneCount_open]
      exact ih (opened + 1)
    · cases opened with
      | zero =>
        rw [loneCount_close, loneCount_stray]
        exact .inr rfl
      | succ outer =>
        rw [loneCount_close, loneCount_close]
        exact ih outer
    · rw [loneCount_other hOpen hClose, loneCount_other hOpen hClose]
      exact ih opened

/-- A parenthesis more or less, anywhere in a text, makes a difference of one. -/
theorem loneCount_edit (hParen : isParen c = true) (a b : Text) : ∀ opened : Nat,
    loneCount opened (a ++ c :: b) = loneCount opened (a ++ b) + 1 ∨
      loneCount opened (a ++ b) = loneCount opened (a ++ c :: b) + 1 := by
  induction a with
  | nil =>
    intro opened
    rw [List.nil_append, List.nil_append]
    rcases paren_cases c with rfl | rfl | ⟨hOpen, hClose⟩
    · rw [loneCount_open]
      exact loneCount_succ b opened
    · cases opened with
      | zero => exact .inl (loneCount_stray b)
      | succ outer =>
        rw [loneCount_close]
        exact (loneCount_succ b outer).symm
    · exact absurd hParen (by simp [isParen, hOpen, hClose])
  | cons x a ih =>
    intro opened
    rw [List.cons_append, List.cons_append]
    rcases paren_cases x with rfl | rfl | ⟨hOpen, hClose⟩
    · rw [loneCount_open, loneCount_open]
      exact ih (opened + 1)
    · cases opened with
      | zero =>
        rw [loneCount_stray, loneCount_stray]
        have := ih 0
        omega
      | succ outer =>
        rw [loneCount_close, loneCount_close]
        exact ih outer
    · rw [loneCount_other hOpen hClose, loneCount_other hOpen hClose]
      exact ih opened

/-- Each of several edits takes away one parenthesis without a partner at most. -/
theorem ParenEdits.loneCount_le (h : ParenEdits n t u) : loneCount 0 t ≤ loneCount 0 u + n := by
  induction h with
  | none => exact Nat.le_refl _
  | @step n t u v hFirst _ ih =>
    have hOne : loneCount 0 t ≤ loneCount 0 u + 1 := by
      cases hFirst with
      | insert a b hParen =>
        have := loneCount_edit hParen a b 0
        omega
      | delete a b hParen =>
        have := loneCount_edit hParen a b 0
        omega
    omega

theorem loneCount_of_balanced (h : Balanced t) : loneCount 0 t = 0 := by
  have hIssues : unmatchedFrom 0 [] t = [] := (Unmatched.opens (.none h)).unmatchedFrom_eq
  have hCount := length_unmatchedFrom t 0 []
  rw [hIssues] at hCount
  exact hCount.symm

/-- There are as many reports as parentheses without a partner. -/
theorem length_parenIssues (hShader : isShader t = false) :
    (parenIssues t).length = loneCount 0 t := by
  rw [← (parenIssues_unmatched hShader).unmatchedFrom_eq, length_unmatchedFrom]
  rfl

-- ---------------------------------------------------------------------------
-- The repair
-- ---------------------------------------------------------------------------

theorem ParenEdit.append_left (h : ParenEdit t u) (a : Text) : ParenEdit (a ++ t) (a ++ u) := by
  cases h with
  | insert x b hParen =>
    rw [← List.append_assoc, ← List.append_assoc]
    exact .insert (a ++ x) b hParen
  | delete x b hParen =>
    rw [← List.append_assoc, ← List.append_assoc]
    exact .delete (a ++ x) b hParen

theorem ParenEdits.append_left (h : ParenEdits n t u) (a : Text) :
    ParenEdits n (a ++ t) (a ++ u) := by
  induction h with
  | none => exact .none
  | step hFirst _ ih => exact .step (hFirst.append_left a) ih

theorem parens_append (t u : Text) : parens (t ++ u) = parens t ++ parens u := List.filter_append ..

/-- Every repair of a script is one edit of its parentheses. -/
theorem parenEdits_stitches (w : List Stitch) :
    ParenEdits (w.countP Stitch.isRepair) (parens (oldText w)) (parens (newText w)) := by
  induction w with
  | nil => exact .none
  | cons x w ih =>
    rw [oldText_cons, newText_cons, parens_append, parens_append]
    cases x with
    | kept c => exact ih.append_left (parens [c])
    | closing =>
      rw [List.countP_cons_of_pos (by decide)]
      exact .step (.insert [] _ (by decide)) (ih.append_left [')'])
    | marker =>
      rw [List.countP_cons_of_pos (by decide)]
      exact .step (.delete [] _ (by decide)) ih

/-- Only parentheses matter to balance. -/
theorem balanced_parens (h : Balanced t) : Balanced (parens t) := by
  refine nested_congr ?_ h
  show t.filter isParen = (t.filter isParen).filter isParen
  simp only [List.filter_filter, Bool.and_self]

/-- **As short as can be.** For a script that is no shader code, the fixes counted are the
reports. With that many edits, each of which puts in or takes out one parenthesis, the
repair makes a balanced sequence of the parentheses of the script, and no fewer edits of
any kind do. -/
theorem parenIssues_isLeast {source : Text} (hShader : isShader source = false) :
    (mendAndCount source (parenIssues source)).2 = (parenIssues source).length ∧
      ParenEdits (parenIssues source).length (parens source)
        (parens (mendAndCount source (parenIssues source)).1) ∧
      Balanced (parens (mendAndCount source (parenIssues source)).1) ∧
      IsLeast {n | ∃ u, ParenEdits n (parens source) u ∧ Balanced u}
        (parenIssues source).length := by
  obtain ⟨w, hSound, hOld, hNew, hCount⟩ := mendParens_stitches hShader
  have hEdits := parenEdits_stitches w
  rw [hOld, hNew, hCount] at hEdits
  have hBalanced : Balanced (parens (mendParens source (parenIssues source))) := by
    rw [← hNew]
    exact balanced_parens hSound.balanced
  refine ⟨rfl, hEdits, hBalanced, ⟨_, hEdits, hBalanced⟩, ?_⟩
  rintro n ⟨u, hReach, hDone⟩
  have hLeast := hReach.loneCount_le
  rwa [loneCount_of_balanced hDone, Nat.zero_add, loneCount_parens, ← length_parenIssues hShader]
    at hLeast

/-- A stray parenthesis, and two left open. -/
def strayAndOpen : Text := "f()); g(h(".toList

theorem parenIssues_isLeast_strayAndOpen : isShader strayAndOpen = false ∧
    (mendAndCount strayAndOpen (parenIssues strayAndOpen)).2 = 3 ∧
    IsLeast {n | ∃ u, ParenEdits n (parens strayAndOpen) u ∧ Balanced u} 3 := by
  have hShader : isShader strayAndOpen = false := by decide
  have hThree : (parenIssues strayAndOpen).length = 3 := by decide
  obtain ⟨hFixes, -, -, hLeast⟩ := parenIssues_isLeast hShader
  rw [hThree] at hFixes hLeast
  exact ⟨hShader, hFixes, hLeast⟩

end Script

end SketchRepair
