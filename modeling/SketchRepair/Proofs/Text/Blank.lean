import Mathlib.Data.List.TakeWhile
import SketchRepair.Proofs.Text.Occurrence
import SketchRepair.Text.Blank

/-!
# SketchRepair — what trimming leaves

Trimming takes blanks off the two ends of a text, and nothing else.

* `isPrefix_trimEnd`, `count_trimEnd` — trimming at the end leaves a beginning, and all
  that is not blank;
* `exists_blanks_trim`, `isBlank_of_head?_trim`, `isBlank_of_getLast?_trim` — blanks
  are taken off, all of those at the two ends;
* `filter_trim` — and nothing else;
* `isPrefix_trim` — a beginning without blanks is still there behind trimming;
* `trim_padded` — a text that neither begins nor ends with a blank is what is left of it
  between blanks;
* `trim_indentation_append` — nor does it matter to trimming how a text is indented;
* `squeeze_padded` — nor do blanks at the ends matter to squeezing;
* `fold_of_isBlank`, `afterFold?_behindBlanks_iff` — blanks stand for nothing but
  themselves, so a pattern is looked for behind them.
-/

namespace SketchRepair

namespace Text

variable {p t : Text}

theorem isPrefix_trimEnd (t : Text) : trimEnd t <+: t := by
  have h : t.reverse.dropWhile isBlank <:+ t.reverse := List.dropWhile_suffix _
  have := List.reverse_prefix.mpr h
  rwa [List.reverse_reverse] at this

/-- What trimming at the end takes off is blank. -/
theorem exists_blanks_trimEnd (t : Text) :
    ∃ behind, (∀ c ∈ behind, isBlank c = true) ∧ t = trimEnd t ++ behind := by
  refine ⟨(t.reverse.takeWhile isBlank).reverse, ?_, ?_⟩
  · intro c hc
    exact List.all_eq_true.mp List.all_takeWhile c (List.mem_reverse.mp hc)
  · rw [trimEnd, ← List.reverse_append, List.takeWhile_append_dropWhile, List.reverse_reverse]

/-- Trimming at the end takes no characters off that are not blank. -/
theorem count_trimEnd {c : Char} (hSolid : isBlank c = false) (t : Text) :
    (trimEnd t).count c = t.count c := by
  obtain ⟨behind, hBehind, hText⟩ := exists_blanks_trimEnd t
  have hNone : behind.count c = 0 := by
    rw [List.count_eq_zero]
    intro hMem
    have hBlank := hBehind c hMem
    rw [hSolid] at hBlank
    exact absurd hBlank (by simp)
  conv => rhs; rw [hText]
  rw [List.count_append, hNone, Nat.add_zero]

/-- A text trimmed at the end ends with no blank. -/
theorem isBlank_of_getLast?_trimEnd {c : Char} (h : (trimEnd t).getLast? = some c) :
    isBlank c = false := by
  rw [trimEnd, List.getLast?_reverse] at h
  have hFirst := List.head?_dropWhile_not isBlank t.reverse
  rw [h] at hFirst
  simpa using hFirst

theorem allBlank_iff_filter : allBlank t = true ↔ t.filter (fun c => !isBlank c) = [] := by
  simp [allBlank, List.filter_eq_nil_iff]

theorem isInfix_trim (t : Text) : trim t <:+: t :=
  (isPrefix_trimEnd _).isInfix.trans (List.dropWhile_suffix isBlank).isInfix

/-- What trimming takes off is blank. -/
theorem exists_blanks_trim (t : Text) : ∃ before behind, (∀ c ∈ before, isBlank c = true) ∧
    (∀ c ∈ behind, isBlank c = true) ∧ t = before ++ trim t ++ behind := by
  have hStart : t = t.takeWhile isBlank ++ trimStart t := List.takeWhile_append_dropWhile.symm
  obtain ⟨behind, hBehind, hEnd⟩ := exists_blanks_trimEnd (trimStart t)
  refine ⟨t.takeWhile isBlank, behind, List.all_eq_true.mp List.all_takeWhile, hBehind, ?_⟩
  rw [List.append_assoc, trim, ← hEnd]
  exact hStart

/-- Trimming takes nothing off that is picked by a test no blank passes. -/
theorem filter_trim {q : Char → Bool} (hSolid : ∀ c, isBlank c = true → q c = false) (t : Text) :
    (trim t).filter q = t.filter q := by
  obtain ⟨before, behind, hBefore, hBehind, hText⟩ := exists_blanks_trim t
  have hNone {b : Text} (hb : ∀ c ∈ b, isBlank c = true) : b.filter q = [] := by
    rw [List.filter_eq_nil_iff]
    intro c hc
    simp [hSolid c (hb c hc)]
  conv => rhs; rw [hText]
  rw [List.filter_append, List.filter_append, hNone hBefore, hNone hBehind, List.nil_append,
    List.append_nil]

/-- A trimmed text begins with no blank. -/
theorem isBlank_of_head?_trim {c : Char} (h : (trim t).head? = some c) : isBlank c = false := by
  have hStart : (trimStart t).head? = some c := by
    obtain ⟨r, hr⟩ := isPrefix_trimEnd (trimStart t)
    rw [← hr, List.head?_append, show trimEnd (trimStart t) = trim t from rfl, h]
    rfl
  have hFirst := List.head?_dropWhile_not isBlank t
  rw [show t.dropWhile isBlank = trimStart t from rfl, hStart] at hFirst
  simpa using hFirst

/-- A trimmed text ends with no blank. -/
theorem isBlank_of_getLast?_trim {c : Char} (h : (trim t).getLast? = some c) :
    isBlank c = false :=
  isBlank_of_getLast?_trimEnd h

/-- A beginning without blanks is still there behind trimming. -/
theorem isPrefix_trim (hSolid : ∀ c ∈ p, isBlank c = false) (h : p <+: t) : p <+: trim t := by
  obtain ⟨r, rfl⟩ := h
  cases p with
  | nil => exact List.nil_prefix
  | cons c p =>
    have hStart : trimStart (c :: p ++ r) = c :: p ++ r := by
      rw [trimStart, List.cons_append, List.dropWhile_cons_of_neg]
      rw [hSolid c (List.mem_cons_self ..)]
      simp
    have hEnd : (c :: p).reverse.dropWhile isBlank = (c :: p).reverse := by
      rw [List.dropWhile_eq_self_iff]
      intro hLength hBlank
      have hMem : (c :: p).reverse[0] ∈ c :: p := List.mem_reverse.mp (List.getElem_mem hLength)
      rw [hSolid _ hMem] at hBlank
      simp at hBlank
    rw [trim, hStart, trimEnd, List.reverse_append, List.dropWhile_append]
    split
    · have hWhole : ((c :: p).reverse.dropWhile isBlank).reverse = c :: p :=
        (congrArg List.reverse hEnd).trans (List.reverse_reverse _)
      exact ⟨[], (List.append_nil _).trans hWhole.symm⟩
    · rw [List.reverse_append, List.reverse_reverse]
      exact List.prefix_append _ _

/-- Trimming takes off the blanks around a text that neither begins nor ends with one. -/
theorem trim_padded {a b core : Text} (ha : ∀ c ∈ a, isBlank c = true)
    (hb : ∀ c ∈ b, isBlank c = true) (hFirst : ∀ c ∈ core.head?, isBlank c = false)
    (hLast : ∀ c ∈ core.getLast?, isBlank c = false) (hCore : core ≠ []) :
    trim (a ++ core ++ b) = core := by
  have hStart : trimStart (a ++ core ++ b) = core ++ b := by
    obtain ⟨c, t, rfl⟩ := List.exists_cons_of_ne_nil hCore
    rw [List.append_assoc, trimStart, List.dropWhile_append_of_pos ha, List.cons_append,
      List.dropWhile_cons_of_neg (by simp [hFirst c rfl])]
  have hEnd : core.reverse.dropWhile isBlank = core.reverse := by
    obtain ⟨c, t, hReverse⟩ := List.exists_cons_of_ne_nil (List.reverse_ne_nil_iff.mpr hCore)
    have hc : c ∈ core.getLast? := by rw [← List.head?_reverse, hReverse]; rfl
    rw [hReverse, List.dropWhile_cons_of_neg (by simp [hLast c hc])]
  rw [trim, hStart, trimEnd, List.reverse_append,
    List.dropWhile_append_of_pos fun c hc => hb c (List.mem_reverse.mp hc), hEnd,
    List.reverse_reverse]

/-- Indenting does not matter to a text that is trimmed. -/
theorem trim_indentation_append (u t : Text) : trim (indentation u ++ t) = trim t := by
  have hStart : trimStart (indentation u ++ t) = trimStart t := by
    refine List.dropWhile_append_of_pos ?_
    intro c hc
    exact List.all_eq_true.mp List.all_takeWhile c hc
  rw [trim, trim, hStart]

-- ---------------------------------------------------------------------------
-- Squeezing
-- ---------------------------------------------------------------------------

/-- The pieces of a text between the characters that `q` picks, empty ones included. -/
def allPieces (q : Char → Bool) : Text → List Text
  | [] => [[]]
  | c :: t =>
    if q c then [] :: allPieces q t
    else
      match allPieces q t with
      | [] => [[c]]
      | w :: ws => (c :: w) :: ws

theorem pieces_eq (q : Char → Bool) (t : Text) : pieces q t = (allPieces q t).filter (· ≠ []) := by
  unfold pieces
  congr 1
  induction t with
  | nil => rfl
  | cons c t ih =>
    rw [List.foldr_cons, ih, allPieces]
    rfl

theorem allPieces_ne_nil (q : Char → Bool) (t : Text) : allPieces q t ≠ [] := by
  cases t with
  | nil => exact List.cons_ne_nil _ _
  | cons c t =>
    rw [allPieces]
    split
    · exact List.cons_ne_nil _ _
    · split <;> exact List.cons_ne_nil _ _

/-- Behind the last piece there are only empty ones. -/
theorem exists_allPieces_append {q : Char → Bool} {b : Text} (hb : ∀ c ∈ b, q c = true) (t : Text) :
    ∃ k, allPieces q (t ++ b) = allPieces q t ++ List.replicate k [] := by
  induction t with
  | nil =>
    refine ⟨b.length, ?_⟩
    induction b with
    | nil => rfl
    | cons c b ih =>
      obtain ⟨hc, hb⟩ := List.forall_mem_cons.mp hb
      have hRest : allPieces q b = allPieces q [] ++ List.replicate b.length [] := ih hb
      rw [List.nil_append, allPieces, allPieces, if_pos hc, hRest, List.length_cons,
        List.replicate_succ]
      rfl
  | cons c t ih =>
    obtain ⟨k, hk⟩ := ih
    refine ⟨k, ?_⟩
    rw [List.cons_append, allPieces, allPieces, hk]
    split
    · rfl
    · obtain ⟨w, ws, hFirst⟩ := List.exists_cons_of_ne_nil (allPieces_ne_nil q t)
      rw [hFirst]
      rfl

/-- Blanks at its ends do not matter to a text that is squeezed. -/
theorem squeeze_padded {a b : Text} (ha : ∀ c ∈ a, isBlank c = true)
    (hb : ∀ c ∈ b, isBlank c = true) (t : Text) : squeeze (a ++ t ++ b) = squeeze t := by
  have hEnd : pieces isBlank (t ++ b) = pieces isBlank t := by
    obtain ⟨k, hk⟩ := exists_allPieces_append hb t
    have hEmpty : (List.replicate k ([] : Text)).filter (· ≠ []) = [] := by
      rw [List.filter_eq_nil_iff]
      intro w hw
      simp [List.eq_of_mem_replicate hw]
    rw [pieces_eq, pieces_eq, hk, List.filter_append, hEmpty, List.append_nil]
  have hStart : pieces isBlank (a ++ (t ++ b)) = pieces isBlank (t ++ b) := by
    induction a with
    | nil => rfl
    | cons c a ih =>
      obtain ⟨hc, ha⟩ := List.forall_mem_cons.mp ha
      rw [← ih ha, pieces_eq, pieces_eq, List.cons_append, allPieces, if_pos hc,
        List.filter_cons_of_neg (by simp)]
  rw [squeeze, squeeze, chunks, chunks, List.append_assoc, hStart, hEnd]

-- ---------------------------------------------------------------------------
-- Blanks and the characters that are seen
-- ---------------------------------------------------------------------------

/-- Blanks stand before and behind the visible characters of ASCII. -/
theorem not_visible_of_isBlank {c : Char} (h : isBlank c = true) {first last : UInt32}
    (hFirst : 0x21 ≤ first.toNat) (hLast : last.toNat ≤ 0x7E) :
    ¬ (c.val ≥ first ∧ c.val ≤ last) := by
  rintro ⟨hFrom, hTo⟩
  have hAbove : first.toNat ≤ c.toNat := UInt32.le_iff_toNat_le.mp hFrom
  have hBelow : c.toNat ≤ last.toNat := UInt32.le_iff_toNat_le.mp hTo
  simp only [isBlank, Bool.or_eq_true, Bool.and_eq_true, decide_eq_true_eq, beq_iff_eq] at h
  omega

theorem isUpper_of_isBlank {c : Char} (h : isBlank c = true) : c.isUpper = false :=
  decide_eq_false (not_visible_of_isBlank h (by decide) (by decide))

theorem isAlphanum_of_isBlank {c : Char} (h : isBlank c = true) : c.isAlphanum = false := by
  have hLower : c.isLower = false := by
    show (decide (c.val ≥ 'a'.val) && decide (c.val ≤ 'z'.val)) = false
    rw [← Bool.decide_and]
    exact decide_eq_false (not_visible_of_isBlank h (by decide) (by decide))
  have hDigit : c.isDigit = false := by
    show (decide (c.val ≥ '0'.val) && decide (c.val ≤ '9'.val)) = false
    rw [← Bool.decide_and]
    exact decide_eq_false (not_visible_of_isBlank h (by decide) (by decide))
  show ((c.isUpper || c.isLower) || c.isDigit) = false
  rw [isUpper_of_isBlank h, hLower, hDigit]
  rfl

/-- A blank stands for itself when case is ignored. -/
theorem fold_of_isBlank {c : Char} (h : isBlank c = true) : fold c = c := by
  have hNot {d : Char} (hd : isBlank d = false) : c ≠ d := ne_of_class h hd
  unfold fold
  rw [isUpper_of_isBlank h, if_neg (by simp), if_neg (hNot (by decide)), if_neg (hNot (by decide)),
    if_neg (not_or.mpr ⟨hNot (by decide), hNot (by decide)⟩)]

/-- What follows blanks and then a pattern that begins with no blank. -/
theorem afterFold?_behindBlanks_iff {d : Char} (hd : isBlank d = false) {rest : Text} :
    afterFold? (d :: p) (t.dropWhile isBlank) = some rest ↔
      ∃ gap w, t = gap ++ w ++ rest ∧ (∀ c ∈ gap, isBlank c = true) ∧ w.map fold = d :: p := by
  rw [afterFold?_eq_some_iff]
  constructor
  · rintro ⟨w, hText, hw⟩
    refine ⟨t.takeWhile isBlank, w, ?_, fun c hc => List.mem_takeWhile_imp hc, hw⟩
    rw [List.append_assoc, ← hText, List.takeWhile_append_dropWhile]
  · rintro ⟨gap, w, rfl, hGap, hw⟩
    refine ⟨w, ?_, hw⟩
    obtain ⟨c, w, rfl, hc, -⟩ := List.map_eq_cons_iff.mp hw
    have hSolid : isBlank c = false := by
      by_contra hBlank
      rw [Bool.not_eq_false] at hBlank
      rw [fold_of_isBlank hBlank] at hc
      exact ne_of_class hBlank hd hc
    rw [List.append_assoc, List.dropWhile_append_of_pos hGap, List.cons_append,
      List.dropWhile_cons_of_neg (by rw [hSolid]; decide)]

end Text

end SketchRepair
