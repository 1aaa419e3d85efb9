import SketchRepair.Proofs.Stylesheet.Mechanical

/-!
# SketchRepair — the normal form of a style sheet

Whether mending has anything to do on a sheet can be seen from the sheet, without
scanning it: there is no nameless value in it, and no declaration that a closing brace
ends. A value is nameless where its colon has a blank behind it and stands, blanks
aside, at the beginning of a line or behind a `{` or a `;`.

Main results:

* `isNamed_iff`, `isEnded_iff` — the two halves of the normal form, read off the text;
* `mend_eq_self_iff` — mending changes nothing exactly in normal form;
* `mend_isNormal` — **every mended sheet is in normal form**, with its braces kept.
-/

namespace SketchRepair

namespace Stylesheet

variable {opening : Bool} {c d : Char} {a gap b css t : Text}

/-- A line or a declaration begins behind the text. -/
def Begins (a : Text) : Prop := ∀ c, a.getLast? = some c → c = '\n' ∨ c = '{' ∨ c = ';'

/-- There is nothing to mend in the sheet. -/
structure IsNormal (css : Text) : Prop where
  /-- Where a line or a declaration begins, blanks aside, no colon stands that has a blank
  behind it. -/
  named : ∀ a gap d b, css = a ++ (gap ++ ':' :: d :: b) → Text.allBlank gap = true →
    isBlank d = true → ¬ Begins a
  /-- What stands before a closing brace, blanks aside, is a `;` or a brace if it is
  anything. -/
  ended : ∀ a c gap b, css = a ++ c :: (gap ++ '}' :: b) → isBlank c = false →
    Text.allBlank gap = true → isTerminator c = true

/-- The braces of a text, in their order. -/
def braces (t : Text) : Text := t.filter fun c => c == '{' || c == '}'

-- ---------------------------------------------------------------------------
-- Nameless values
-- ---------------------------------------------------------------------------

/-- Does the place behind `p` begin a line or a declaration, blanks aside? -/
def opensAfter (opening : Bool) (p : Text) : Bool := p.foldl opensBehind opening

theorem opensAfter_concat (opening : Bool) (p : Text) (c : Char) :
    opensAfter opening (p ++ [c]) = opensBehind (opensAfter opening p) c := by
  rw [opensAfter, List.foldl_append]
  rfl

theorem opensBehind_iff : opensBehind opening c = true ↔
    (c = '\n' ∨ c = '{' ∨ c = ';') ∨ (opening = true ∧ isBlank c = true) := by
  simp [opensBehind, or_assoc]

/-- What begins, begins some blanks before. -/
theorem opensAfter_iff (p : Text) : opensAfter true p = true ↔
    ∃ a gap, p = a ++ gap ∧ Text.allBlank gap = true ∧ Begins a := by
  induction p using List.reverseRecOn with
  | nil =>
    refine iff_of_true rfl ⟨[], [], rfl, rfl, ?_⟩
    intro c hc
    simp at hc
  | append_singleton p c ih =>
    rw [opensAfter_concat, opensBehind_iff, ih]
    constructor
    · rintro (hBreak | ⟨⟨a, gap, rfl, hGap, hBegins⟩, hBlank⟩)
      · refine ⟨p ++ [c], [], (List.append_nil _).symm, rfl, ?_⟩
        intro e he
        rw [List.getLast?_concat, Option.some.injEq] at he
        exact he ▸ hBreak
      · refine ⟨a, gap ++ [c], List.append_assoc .., ?_, hBegins⟩
        rw [Text.allBlank, List.all_append, Bool.and_eq_true]
        exact ⟨hGap, by simp [hBlank]⟩
    · rintro ⟨a, gap, hText, hGap, hBegins⟩
      rcases List.eq_nil_or_concat gap with rfl | ⟨g, e, rfl⟩
      · -- the last character itself is what something begins behind
        rw [List.append_nil] at hText
        exact .inl (hBegins c (by rw [← hText, List.getLast?_concat]))
      · rw [List.concat_eq_append, ← List.append_assoc] at hText
        obtain ⟨rfl, hLast⟩ := List.append_inj' hText rfl
        obtain rfl := List.singleton_inj.mp hLast
        rw [List.concat_eq_append, Text.allBlank, List.all_append, Bool.and_eq_true] at hGap
        exact .inr ⟨⟨a, g, rfl, hGap.1, hBegins⟩, by simpa using hGap.2⟩

/-- Values are named when no colon with a blank behind it stands where something begins. -/
theorem isNamed_iff_opensAfter (t : Text) : ∀ opening, isNamed opening t = true ↔
    ∀ p d b, t = p ++ ':' :: d :: b → isBlank d = true → opensAfter opening p = false := by
  induction t with
  | nil =>
    refine fun opening => iff_of_true rfl ?_
    intro p d b h
    simp at h
  | cons c t ih =>
    intro opening
    rw [isNamed_cons, ih]
    constructor
    · rintro ⟨hHere, hRest⟩ p d b hText hBlank
      cases p with
      | nil =>
        obtain ⟨rfl, rfl⟩ := List.cons_eq_cons.mp hText
        have hNot : opening = false := by simpa [isNamelessAt, hBlank] using hHere
        exact hNot
      | cons e p =>
        obtain ⟨rfl, rfl⟩ := List.cons_eq_cons.mp hText
        exact hRest p d b rfl hBlank
    · intro h
      refine ⟨?_, fun p d b hText hBlank => h (c :: p) d b (by rw [hText]; rfl) hBlank⟩
      rw [Bool.eq_false_iff]
      intro hNameless
      simp only [isNamelessAt, Bool.and_eq_true, decide_eq_true_eq] at hNameless
      obtain ⟨⟨hOpening, rfl⟩, hHead⟩ := hNameless
      cases t with
      | nil => simp at hHead
      | cons d b =>
        have hNot : opening = false := h [] d b rfl (by simpa using hHead)
        rw [hOpening] at hNot
        exact absurd hNot (by simp)

theorem isNamed_iff : isNamed true css = true ↔
    ∀ a gap d b, css = a ++ (gap ++ ':' :: d :: b) → Text.allBlank gap = true →
      isBlank d = true → ¬ Begins a := by
  rw [isNamed_iff_opensAfter]
  constructor
  · intro h a gap d b hText hGap hBlank hBegins
    have hNot := h (a ++ gap) d b (by rw [hText, List.append_assoc]) hBlank
    rw [(opensAfter_iff _).mpr ⟨a, gap, rfl, hGap, hBegins⟩] at hNot
    exact absurd hNot (by simp)
  · intro h p d b hText hBlank
    rw [Bool.eq_false_iff]
    intro hOpens
    obtain ⟨a, gap, rfl, hGap, hBegins⟩ := (opensAfter_iff p).mp hOpens
    exact h a gap d b (by rw [hText, List.append_assoc]) hGap hBlank hBegins

-- ---------------------------------------------------------------------------
-- Open declarations
-- ---------------------------------------------------------------------------

/-- Behind blanks a text begins with a solid character exactly when that follows them. -/
theorem head?_dropWhile_eq_some_iff (hSolid : isBlank d = false) :
    (t.dropWhile isBlank).head? = some d ↔
      ∃ gap b, t = gap ++ d :: b ∧ Text.allBlank gap = true := by
  constructor
  · intro h
    obtain ⟨b, hb⟩ := List.head?_eq_some_iff.mp h
    refine ⟨t.takeWhile isBlank, b, ?_, List.all_takeWhile⟩
    rw [← hb, List.takeWhile_append_dropWhile]
  · rintro ⟨gap, b, rfl, hGap⟩
    rw [List.dropWhile_append_of_pos (List.all_eq_true.mp hGap),
      List.dropWhile_cons_of_neg (by simp [hSolid]), List.head?_cons]

theorem isOpenAt_iff : isOpenAt c t = true ↔ isTerminator c = false ∧ isBlank c = false ∧
    ∃ gap b, t = gap ++ '}' :: b ∧ Text.allBlank gap = true := by
  rw [← head?_dropWhile_eq_some_iff (by decide)]
  simp [isOpenAt, and_assoc]

theorem isEnded_iff_isOpenAt (t : Text) :
    isEnded t = true ↔ ∀ a c b, t = a ++ c :: b → isOpenAt c b = false := by
  induction t with
  | nil =>
    refine iff_of_true rfl ?_
    intro a c b h
    simp at h
  | cons c t ih =>
    rw [isEnded_cons, ih]
    constructor
    · rintro ⟨hHere, hRest⟩ a e b hText
      cases a with
      | nil =>
        obtain ⟨rfl, rfl⟩ := List.cons_eq_cons.mp hText
        exact hHere
      | cons x a =>
        obtain ⟨rfl, rfl⟩ := List.cons_eq_cons.mp hText
        exact hRest a e b rfl
    · intro h
      exact ⟨h [] c t rfl, fun a e b hText => h (c :: a) e b (by rw [hText]; rfl)⟩

theorem isEnded_iff : isEnded css = true ↔
    ∀ a c gap b, css = a ++ c :: (gap ++ '}' :: b) → isBlank c = false →
      Text.allBlank gap = true → isTerminator c = true := by
  rw [isEnded_iff_isOpenAt]
  constructor
  · intro h a c gap b hText hSolid hGap
    by_contra hOther
    have hOpen := isOpenAt_iff.mpr ⟨Bool.eq_false_iff.mpr hOther, hSolid, gap, b, rfl, hGap⟩
    rw [h a c _ hText] at hOpen
    exact absurd hOpen (by simp)
  · intro h a c t hText
    rw [Bool.eq_false_iff]
    intro hOpen
    obtain ⟨hOther, hSolid, gap, b, rfl, hGap⟩ := isOpenAt_iff.mp hOpen
    rw [h a c gap b hText hSolid hGap] at hOther
    exact absurd hOther (by simp)

-- ---------------------------------------------------------------------------
-- Braces
-- ---------------------------------------------------------------------------

theorem braces_cons_of_blank (h : isBlank c = true) (t : Text) : braces (c :: t) = braces t := by
  refine List.filter_cons_of_neg ?_
  rw [Bool.or_eq_true, beq_iff_eq, beq_iff_eq]
  rintro (rfl | rfl) <;> exact absurd h (by decide)

theorem braces_cons_congr {t u : Text} (c : Char) (h : braces t = braces u) :
    braces (c :: t) = braces (c :: u) := by
  unfold braces at h ⊢
  rw [List.filter_cons, List.filter_cons, h]

theorem braces_nameValues (opening : Bool) (t : Text) :
    braces (nameValues opening t) = braces t := by
  fun_induction nameValues opening t with
  | case1 => rfl
  | case2 opening d t hNameless ih =>
    rw [Bool.and_eq_true] at hNameless
    have hOld : braces (':' :: d :: t) = braces (d :: t) := List.filter_cons_of_neg (by decide)
    have hNew : braces (placeholder ++ nameValues (decide (d = '\n')) t) =
        braces (nameValues (decide (d = '\n')) t) := by
      rw [braces, List.filter_append]
      rfl
    rw [hNew, ih, hOld, braces_cons_of_blank hNameless.2]
  | case3 opening d t hNamed ih => exact braces_cons_congr ':' ih
  | case4 opening c t hOther ih => exact braces_cons_congr c ih

theorem braces_endDeclarations (t : Text) : braces (endDeclarations t) = braces t := by
  induction t with
  | nil => rfl
  | cons c t ih =>
    cases hOpen : isOpenAt c t with
    | true =>
      rw [endDeclarations_of_open hOpen]
      exact braces_cons_congr c ((List.filter_cons_of_neg (by decide)).trans ih)
    | false =>
      rw [endDeclarations_of_closed hOpen]
      exact braces_cons_congr c ih

/-- Mending puts no brace in and takes none out. -/
theorem braces_mend (css : Text) : braces (mend css) = braces css := by
  rw [mend, braces_endDeclarations, braces_nameValues]

-- ---------------------------------------------------------------------------
-- Normal form
-- ---------------------------------------------------------------------------

theorem isNormal_iff : IsNormal css ↔ isNamed true css = true ∧ isEnded css = true := by
  rw [isNamed_iff, isEnded_iff]
  exact ⟨fun h => ⟨h.named, h.ended⟩, fun h => ⟨h.1, h.2⟩⟩

theorem isNormal_mend (css : Text) : IsNormal (mend css) :=
  isNormal_iff.mpr
    ⟨isNamed_endDeclarations (isNamed_nameValues true css), isEnded_endDeclarations _⟩

/-- A sheet is left as it is exactly in normal form. -/
theorem mend_eq_self_iff : mend css = css ↔ IsNormal css := by
  constructor
  · intro h
    rw [← h]
    exact isNormal_mend css
  · intro h
    obtain ⟨hNamed, hEnded⟩ := isNormal_iff.mp h
    rw [mend, nameValues_eq_self hNamed, endDeclarations_eq_self hEnded]

/-- **Mending reaches the normal form.** In a mended sheet no value is nameless and no
declaration is left open before a brace; its braces are those of the sheet as it was, in
the same order; and mending has nothing to do on it, as on every sheet in normal form and
on no other. -/
theorem mend_isNormal (css : Text) :
    IsNormal (mend css) ∧ braces (mend css) = braces css ∧ mend (mend css) = mend css ∧
      (mend css = css ↔ IsNormal css) :=
  ⟨isNormal_mend css, braces_mend css, mend_mend css, mend_eq_self_iff⟩

/-- The line feed that the first colon spends begins the line of the second one. -/
example : mend ":\n: red\x7d".toList = "position: position: red;\x7d".toList := by decide

end Stylesheet

end SketchRepair
