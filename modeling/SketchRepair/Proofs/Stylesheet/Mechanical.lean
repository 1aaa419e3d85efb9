import SketchRepair.Proofs.Document.Dissection
import SketchRepair.Proofs.Text.Splice
import SketchRepair.Stylesheet.Mechanical

/-!
# SketchRepair — the mechanical repair of a style sheet

A sheet that was mended may still have findings, so the repair must have nothing to do
on its own result. It has not: no value of a mended sheet is nameless, and no
declaration is left open before a brace. Each of the two replacements reaches its own
normal form and keeps the one of the other.

* `isNamed_nameValues`, `isEnded_endDeclarations` — the normal forms are reached;
* `isNamed_endDeclarations` — ending declarations makes no value nameless;
* `mend_mend` — mending a mended sheet changes nothing;
* `isContent_mend`, `allBlank_mend` — what mending adds closes no element, and no sheet
  becomes blank.
-/

namespace SketchRepair

namespace Stylesheet

variable {opening : Bool} {c : Char} {t : Text}

-- ---------------------------------------------------------------------------
-- Nameless values
-- ---------------------------------------------------------------------------

/-- Does the place behind a character begin a line or a declaration, blanks aside? -/
def opensBehind (opening : Bool) (c : Char) : Bool :=
  c = '\n' || c = '{' || c = ';' || (opening && isBlank c)

/-- Does a nameless value stand here? -/
def isNamelessAt (opening : Bool) (c : Char) (t : Text) : Bool :=
  opening && c = ':' && t.head?.any isBlank

/-- Has every value of the text a name? -/
def isNamed : (opening : Bool) → Text → Bool
  | _, [] => true
  | opening, c :: t => !isNamelessAt opening c t && isNamed (opensBehind opening c) t

theorem isNamed_cons : isNamed opening (c :: t) = true ↔
    isNamelessAt opening c t = false ∧ isNamed (opensBehind opening c) t = true := by
  rw [isNamed, Bool.and_eq_true, Bool.not_eq_true']

/-- What is named at the beginning of a line is named anywhere. -/
theorem isNamed_of_opening (h : isNamed true t = true) (opening : Bool) :
    isNamed opening t = true := by
  induction t generalizing opening with
  | nil => rfl
  | cons c t ih =>
    obtain ⟨hHere, hRest⟩ := isNamed_cons.mp h
    cases opening with
    | true => exact h
    | false =>
      refine isNamed_cons.mpr ⟨rfl, ?_⟩
      by_cases hBlank : isBlank c = true
      · -- the blank is no matter, behind it the text is named as if it began a line
        have hOpens : opensBehind true c = true := by simp [opensBehind, hBlank]
        rw [hOpens] at hRest
        exact ih hRest _
      · have hSame : opensBehind false c = opensBehind true c := by simp [opensBehind, hBlank]
        rwa [hSame]

theorem nameValues_cons (h : isNamelessAt opening c t = false) :
    nameValues opening (c :: t) = c :: nameValues (opensBehind opening c) t := by
  unfold opensBehind
  by_cases hColon : c = ':'
  · subst hColon
    cases t with
    | nil => rfl
    | cons d t =>
      have hNot : ¬ (opening && isBlank d) = true := by
        simpa [isNamelessAt] using h
      have hFalse : (decide (':' = '\n') || decide (':' = '{') || decide (':' = ';') ||
          (opening && isBlank ':')) = false := by
        cases opening <;> decide
      rw [nameValues, if_neg hNot, hFalse]
  · rw [nameValues]
    rintro d t rfl rfl
    exact hColon rfl

/-- A sheet without nameless values is not changed. -/
theorem nameValues_eq_self (h : isNamed opening t = true) : nameValues opening t = t := by
  induction t generalizing opening with
  | nil => rfl
  | cons c t ih =>
    obtain ⟨hHere, hRest⟩ := isNamed_cons.mp h
    rw [nameValues_cons hHere, ih hRest]

/-- Behind what is no blank, a text begins as it did. -/
theorem head?_nameValues (t : Text) : (nameValues false t).head? = t.head? := by
  cases t with
  | nil => rfl
  | cons c t => rw [nameValues_cons rfl, List.head?_cons, List.head?_cons]

/-- A text goes on to be named behind a placeholder. -/
theorem isNamed_placeholder (h : isNamed false t = true) :
    isNamed opening (placeholder ++ t) = true := by
  cases opening <;> exact h

/-- Naming values leaves none of them nameless. -/
theorem isNamed_nameValues (opening : Bool) (t : Text) :
    isNamed opening (nameValues opening t) = true := by
  fun_induction nameValues opening t with
  | case1 => rfl
  | case2 opening d t hNameless ih =>
    refine isNamed_placeholder ?_
    -- a line feed that is spent began a line, and the placeholder does not
    by_cases hBreak : d = '\n'
    · rw [decide_eq_true hBreak] at ih ⊢
      exact isNamed_of_opening ih false
    · rw [decide_eq_false hBreak] at ih ⊢
      exact ih
  | case3 opening d t hNamed ih =>
    have hBehind : opensBehind opening ':' = false := by cases opening <;> decide
    refine isNamed_cons.mpr ⟨?_, by rwa [hBehind]⟩
    rw [isNamelessAt, head?_nameValues]
    simpa using hNamed
  | case4 opening c t hOther ih =>
    refine isNamed_cons.mpr ⟨?_, ih⟩
    by_cases hColon : c = ':'
    · -- nothing follows this colon
      have hNil : t = [] := by
        cases t with
        | nil => rfl
        | cons d t => exact absurd rfl (hOther d t hColon)
      rw [hNil]
      simp [isNamelessAt, nameValues]
    · simp [isNamelessAt, hColon]

-- ---------------------------------------------------------------------------
-- Open declarations
-- ---------------------------------------------------------------------------

/-- Is a declaration that ends here closed by a brace without a `;`? -/
def isOpenAt (c : Char) (t : Text) : Bool :=
  !isTerminator c && !isBlank c && (t.dropWhile isBlank).head? = some '}'

/-- Does every declaration before a brace have its `;`? -/
def isEnded : Text → Bool
  | [] => true
  | c :: t => !isOpenAt c t && isEnded t

theorem isEnded_cons : isEnded (c :: t) = true ↔ isOpenAt c t = false ∧ isEnded t = true := by
  rw [isEnded, Bool.and_eq_true, Bool.not_eq_true']

theorem endDeclarations_of_open (h : isOpenAt c t = true) :
    endDeclarations (c :: t) = c :: ';' :: endDeclarations t := by
  rw [endDeclarations]
  exact if_pos h

theorem endDeclarations_of_closed (h : isOpenAt c t = false) :
    endDeclarations (c :: t) = c :: endDeclarations t := by
  rw [endDeclarations]
  exact if_neg (Bool.eq_false_iff.mp h)

/-- A sheet whose declarations are ended is not changed. -/
theorem endDeclarations_eq_self (h : isEnded t = true) : endDeclarations t = t := by
  induction t with
  | nil => rfl
  | cons c t ih =>
    obtain ⟨hHere, hRest⟩ := isEnded_cons.mp h
    rw [endDeclarations_of_closed hHere, ih hRest]

/-- What is ended stands where it stood. -/
theorem head?_endDeclarations (t : Text) : (endDeclarations t).head? = t.head? := by
  cases t with
  | nil => rfl
  | cons c t =>
    cases hOpen : isOpenAt c t with
    | true => rw [endDeclarations_of_open hOpen, List.head?_cons, List.head?_cons]
    | false => rw [endDeclarations_of_closed hOpen, List.head?_cons, List.head?_cons]

/-- So does what is ended behind blanks. -/
theorem head?_dropWhile_endDeclarations (t : Text) :
    ((endDeclarations t).dropWhile isBlank).head? = (t.dropWhile isBlank).head? := by
  induction t with
  | nil => rfl
  | cons c t ih =>
    by_cases hBlank : isBlank c = true
    · have hClosed : isOpenAt c t = false := by simp [isOpenAt, hBlank]
      rw [endDeclarations_of_closed hClosed, List.dropWhile_cons_of_pos hBlank,
        List.dropWhile_cons_of_pos hBlank, ih]
    · have hHead := head?_endDeclarations (c :: t)
      cases hEnded : endDeclarations (c :: t) with
      | nil =>
        rw [hEnded] at hHead
        simp at hHead
      | cons d u =>
        rw [hEnded, List.head?_cons, List.head?_cons, Option.some.injEq] at hHead
        rw [hHead, List.dropWhile_cons_of_neg hBlank, List.dropWhile_cons_of_neg hBlank,
          List.head?_cons, List.head?_cons]

/-- Ending declarations leaves none of them open. -/
theorem isEnded_endDeclarations (t : Text) : isEnded (endDeclarations t) = true := by
  induction t with
  | nil => rfl
  | cons c t ih =>
    cases hOpen : isOpenAt c t with
    | true =>
      have hDone : isOpenAt c (';' :: endDeclarations t) = false := by
        unfold isOpenAt
        rw [List.dropWhile_cons_of_neg (by decide)]
        simp
      have hMark : isOpenAt ';' (endDeclarations t) = false := rfl
      rw [endDeclarations_of_open hOpen]
      exact isEnded_cons.mpr ⟨hDone, isEnded_cons.mpr ⟨hMark, ih⟩⟩
    | false =>
      have hStill : isOpenAt c (endDeclarations t) = false := by
        rwa [isOpenAt, head?_dropWhile_endDeclarations]
      rw [endDeclarations_of_closed hOpen]
      exact isEnded_cons.mpr ⟨hStill, ih⟩

-- ---------------------------------------------------------------------------
-- One after the other
-- ---------------------------------------------------------------------------

/-- Before a brace it is no matter whether a line begins. -/
theorem isNamed_of_brace (hBrace : (t.dropWhile isBlank).head? = some '}')
    (h : isNamed opening t = true) : isNamed true t = true := by
  induction t generalizing opening with
  | nil => rfl
  | cons c t ih =>
    obtain ⟨-, hRest⟩ := isNamed_cons.mp h
    have hColon : c ≠ ':' := by
      rintro rfl
      rw [List.dropWhile_cons_of_neg (by decide)] at hBrace
      simp at hBrace
    refine isNamed_cons.mpr ⟨by simp [isNamelessAt, hColon], ?_⟩
    by_cases hBlank : isBlank c = true
    · have hOpens : opensBehind true c = true := by simp [opensBehind, hBlank]
      rw [List.dropWhile_cons_of_pos hBlank] at hBrace
      rw [hOpens]
      exact ih hBrace hRest
    · have hSame : opensBehind true c = opensBehind opening c := by simp [opensBehind, hBlank]
      rwa [hSame]

/-- Ending declarations makes no value nameless. -/
theorem isNamed_endDeclarations (h : isNamed opening t = true) :
    isNamed opening (endDeclarations t) = true := by
  induction t generalizing opening with
  | nil => rfl
  | cons c t ih =>
    obtain ⟨hHere, hRest⟩ := isNamed_cons.mp h
    cases hOpen : isOpenAt c t with
    | true =>
      -- behind the `;` that is put in, a declaration might begin, but the brace follows
      have hBrace : (t.dropWhile isBlank).head? = some '}' := by
        simp only [isOpenAt, Bool.and_eq_true, decide_eq_true_eq] at hOpen
        exact hOpen.2
      have hMark : isNamed (opensBehind opening c) (';' :: endDeclarations t) = true :=
        isNamed_cons.mpr ⟨by simp [isNamelessAt], ih (isNamed_of_brace hBrace hRest)⟩
      rw [endDeclarations_of_open hOpen]
      refine isNamed_cons.mpr ⟨?_, hMark⟩
      have hNoBlank : isBlank ';' = false := by decide
      simp [isNamelessAt, hNoBlank]
    | false =>
      rw [endDeclarations_of_closed hOpen]
      refine isNamed_cons.mpr ⟨?_, ih hRest⟩
      rwa [isNamelessAt, head?_endDeclarations]

/-- **Mending is done once**: a mended sheet has no nameless value and no open
declaration, and mending it again changes nothing. -/
theorem mend_mend (css : Text) : mend (mend css) = mend css := by
  have hNamed : isNamed true (mend css) = true :=
    isNamed_endDeclarations (isNamed_nameValues true css)
  have hEnded : isEnded (mend css) = true := isEnded_endDeclarations _
  show endDeclarations (nameValues true (mend css)) = mend css
  rw [nameValues_eq_self hNamed, endDeclarations_eq_self hEnded]

example : mend "a \x7b : red \x7d".toList = "a \x7b position: red; \x7d".toList := by decide

-- ---------------------------------------------------------------------------
-- What mending adds
-- ---------------------------------------------------------------------------

/-- The texts that mending puts into a sheet. -/
def additions : List Text := [placeholder, [';']]

theorem spliced_nameValues (opening : Bool) (t : Text) :
    Text.Spliced additions t (nameValues opening t) := by
  fun_induction nameValues opening t with
  | case1 => exact .nil
  | case2 opening d t hNameless ih => exact .put [':', d] (by decide) ih
  | case3 opening d t hNamed ih => exact .keep ':' ih
  | case4 opening c t hOther ih => exact .keep c ih

theorem spliced_endDeclarations (t : Text) : Text.Spliced additions t (endDeclarations t) := by
  induction t with
  | nil => exact .nil
  | cons c t ih =>
    cases hOpen : isOpenAt c t with
    | true =>
      have hMark : Text.Spliced additions ([] ++ t) ([';'] ++ endDeclarations t) :=
        .put [] (by decide) ih
      rw [endDeclarations_of_open hOpen]
      exact .keep c hMark
    | false =>
      rw [endDeclarations_of_closed hOpen]
      exact .keep c ih

/-- A mended sheet holds no closing tag if it held none. -/
theorem isContent_mend {css : Text} (h : Document.IsContent .style css) :
    Document.IsContent .style (mend css) := by
  have hClear : ∀ new ∈ additions.map (·.map fold), Text.Clear Document.Tag.style.closer new := by
    decide
  intro hMended
  have hNamed := (spliced_endDeclarations (nameValues true css)).map_fold.infix_of hClear hMended
  exact h ((spliced_nameValues true css).map_fold.infix_of hClear hNamed)

theorem allBlank_mend {css : Text} (h : Text.allBlank css = false) :
    Text.allBlank (mend css) = false := by
  have hSolid : ∀ new ∈ additions, Text.allBlank new = false := by decide
  have hNamed := (spliced_nameValues true css).allBlank_eq_false hSolid h
  exact (spliced_endDeclarations _).allBlank_eq_false hSolid hNamed

end Stylesheet

end SketchRepair
