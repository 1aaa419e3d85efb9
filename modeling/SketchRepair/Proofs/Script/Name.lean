import SketchRepair.Proofs.Text.Occurrence
import SketchRepair.Script.Name

/-!
# SketchRepair — where a script mentions a name

Whether a script mentions a name is decided by a search for words. It can be said
without any search: the script is a text, the name, and another text, and the name ends
at both seams as a word does. So a script that is put together at a character of no
name mentions what its parts mention, and whoever mentions a name mentions the words
that the name itself holds.

* `spans_ne_nil_iff` — a match is found where one stands;
* `mentions_iff` — what it is to be mentioned;
* `mentions_append_cons` — two texts with a separator between them;
* `mentions_trans` — a word within a word.
-/

namespace SketchRepair

namespace Text

/-- A matcher that never matches at the end of a text finds something exactly where it
matches somewhere. -/
theorem spansFrom_ne_nil_iff {m : Option Char → Text → Option Nat} (hEnd : ∀ prev, m prev [] = none)
    {t : Text} : ∀ {i : Nat} {prev : Option Char}, spansFrom m 0 i prev t ≠ [] ↔
      ∃ a b, t = a ++ b ∧ m ((prev.toList ++ a).getLast?) b ≠ none := by
  induction t with
  | nil =>
    intro i prev
    rw [spansFrom, hEnd]
    constructor
    · intro h
      simp at h
    · rintro ⟨a, b, hText, hMatch⟩
      rw [(List.append_eq_nil_iff.mp hText.symm).2, hEnd] at hMatch
      exact absurd rfl hMatch
  | cons c t ih =>
    intro i prev
    rw [spansFrom]
    cases hHere : m prev (c :: t) with
    | some n =>
      constructor
      · intro _
        refine ⟨[], c :: t, rfl, ?_⟩
        rw [List.append_nil]
        cases prev <;> simp [hHere]
      · intro _
        simp
    | none =>
      refine ih.trans ?_
      constructor
      · rintro ⟨a, b, rfl, hMatch⟩
        refine ⟨c :: a, b, rfl, ?_⟩
        rw [List.getLast?_append_cons]
        exact hMatch
      · rintro ⟨a, b, hText, hMatch⟩
        cases a with
        | nil =>
          rw [List.nil_append] at hText
          rw [← hText, List.append_nil] at hMatch
          cases prev <;> simp [hHere] at hMatch
        | cons d a =>
          rw [List.cons_append, List.cons.injEq] at hText
          obtain ⟨rfl, rfl⟩ := hText
          rw [List.getLast?_append_cons] at hMatch
          exact ⟨a, b, rfl, hMatch⟩

theorem spans_ne_nil_iff {m : Option Char → Text → Option Nat} (hEnd : ∀ prev, m prev [] = none)
    {t : Text} : spans m t ≠ [] ↔ ∃ a b, t = a ++ b ∧ m a.getLast? b ≠ none :=
  spansFrom_ne_nil_iff hEnd

end Text

namespace Script

variable {w name script x y : Text} {c : Char}

/-- The name stands between two texts and ends at both seams as a word does. -/
def StandsBetween (name a b : Text) : Prop :=
  isBoundary a.getLast? name.head? = true ∧ isBoundary name.getLast? b.head? = true

theorem nameHere_ne_none_iff (hName : name ≠ []) {prev : Option Char} {t : Text} :
    nameHere name prev t ≠ none ↔ ∃ b, t = name ++ b ∧
      isBoundary prev name.head? = true ∧ isBoundary name.getLast? b.head? = true := by
  obtain ⟨d, n, rfl⟩ := List.exists_cons_of_ne_nil hName
  rw [nameHere]
  cases hAfter : Text.after? (d :: n) t with
  | none =>
    constructor
    · intro h
      exact absurd rfl h
    · rintro ⟨b, hText, -⟩
      rw [Text.after?_eq_some.mpr hText] at hAfter
      simp at hAfter
  | some rest =>
    have hText := Text.after?_eq_some.mp hAfter
    subst hText
    constructor
    · intro h
      refine ⟨rest, rfl, ?_⟩
      simpa using h
    · rintro ⟨b, hText, hBoundaries⟩
      rw [List.append_cancel_left hText]
      simpa using hBoundaries

/-- A name is mentioned where it stands as a word. -/
theorem mentions_iff (hName : name ≠ []) : mentions name script = true ↔
    ∃ a b, script = a ++ name ++ b ∧ StandsBetween name a b := by
  have hEnd (prev : Option Char) : nameHere name prev [] = none := by
    by_contra hHere
    obtain ⟨b, hText, -⟩ := (nameHere_ne_none_iff hName).mp hHere
    exact hName (List.append_eq_nil_iff.mp hText.symm).1
  have hFound : mentions name script = true ↔ Text.spans (nameHere name) script ≠ [] := by
    simp [mentions, occurrences]
  rw [hFound, Text.spans_ne_nil_iff hEnd]
  constructor
  · rintro ⟨a, t, rfl, hHere⟩
    obtain ⟨b, rfl, hBoundaries⟩ := (nameHere_ne_none_iff hName).mp hHere
    exact ⟨a, b, by rw [List.append_assoc], hBoundaries⟩
  · rintro ⟨a, b, rfl, hBoundaries⟩
    exact ⟨a, name ++ b, by rw [List.append_assoc],
      (nameHere_ne_none_iff hName).mpr ⟨b, rfl, hBoundaries⟩⟩

theorem infix_of_mentions (hName : name ≠ []) (h : mentions name script = true) :
    name <:+: script := by
  obtain ⟨a, b, rfl, -⟩ := (mentions_iff hName).mp h
  exact ⟨a, b, rfl⟩

-- ---------------------------------------------------------------------------
-- Separators
-- ---------------------------------------------------------------------------

/-- At a separator a word ends as it does at the end of a text. -/
theorem isWordAt_head?_append_cons (hWord : isWord c = false) (b y : Text) :
    isWordAt (b ++ c :: y).head? = isWordAt b.head? := by
  cases b with
  | nil => exact hWord
  | cons d b => rfl

/-- And it begins as it does at the beginning of one. -/
theorem isWordAt_getLast?_append_cons (hWord : isWord c = false) (x a : Text) :
    isWordAt (x ++ c :: a).getLast? = isWordAt a.getLast? := by
  rw [List.getLast?_append_cons]
  rcases List.eq_nil_or_concat a with rfl | ⟨a, d, rfl⟩
  · exact hWord
  · rw [List.concat_eq_append, ← List.cons_append, List.getLast?_concat, List.getLast?_concat]

/-- What stands in two texts with a separator between them stands in one of them. -/
theorem split_of_not_mem (hc : c ∉ name) {a b : Text} (h : x ++ c :: y = a ++ name ++ b) :
    (∃ b', x = a ++ name ++ b' ∧ b = b' ++ c :: y) ∨
      ∃ a', y = a' ++ name ++ b ∧ a = x ++ c :: a' := by
  rcases List.append_eq_append_iff.mp h with ⟨u, hBefore, hRest⟩ | ⟨b', hx, hb⟩
  · cases u with
    | nil =>
      rw [List.append_nil] at hBefore
      exact .inl ⟨[], by rw [List.append_nil, hBefore], hRest.symm⟩
    | cons d u =>
      -- the separator stands before the end of the name, and so before all of it
      rw [List.cons_append, List.cons.injEq] at hRest
      obtain ⟨rfl, rfl⟩ := hRest
      rw [List.append_cons] at hBefore
      rcases List.append_eq_append_iff.mp hBefore with ⟨z, hx, hName⟩ | ⟨a', ha, hu⟩
      · rcases List.eq_nil_or_concat z with rfl | ⟨z, d, rfl⟩
        · rw [List.append_nil] at hx
          exact .inr ⟨[], by rw [hName]; rfl, hx.symm⟩
        · rw [List.concat_eq_append, ← List.append_assoc] at hx
          obtain ⟨-, hd⟩ := List.append_inj' hx rfl
          have hMem : c ∈ name := by
            rw [hName, List.concat_eq_append, ← hd]
            simp
          exact absurd hMem hc
      · exact .inr ⟨a', by rw [hu], by rw [ha, List.append_assoc, List.singleton_append]⟩
  · exact .inl ⟨b', hx, hb⟩

/-- Two texts with a separator between them mention what one of them mentions. -/
theorem mentions_append_cons (hName : name ≠ []) (hWord : isWord c = false) (hc : c ∉ name) :
    mentions name (x ++ c :: y) = true ↔
      mentions name x = true ∨ mentions name y = true := by
  rw [mentions_iff hName, mentions_iff hName, mentions_iff hName]
  constructor
  · rintro ⟨a, b, hText, hBefore, hBehind⟩
    rcases split_of_not_mem hc hText with ⟨b', rfl, rfl⟩ | ⟨a', rfl, rfl⟩
    · rw [isBoundary, isWordAt_head?_append_cons hWord] at hBehind
      exact .inl ⟨a, b', rfl, hBefore, hBehind⟩
    · rw [isBoundary, isWordAt_getLast?_append_cons hWord] at hBefore
      exact .inr ⟨a', b, rfl, hBefore, hBehind⟩
  · rintro (⟨a, b, rfl, hBefore, hBehind⟩ | ⟨a, b, rfl, hBefore, hBehind⟩)
    · refine ⟨a, b ++ c :: y, by simp, hBefore, ?_⟩
      rwa [isBoundary, isWordAt_head?_append_cons hWord]
    · refine ⟨x ++ c :: a, b, by simp, ?_, hBehind⟩
      rwa [isBoundary, isWordAt_getLast?_append_cons hWord]

-- ---------------------------------------------------------------------------
-- Words within words
-- ---------------------------------------------------------------------------

/-- A script that mentions a name mentions the words that stand in the name. -/
theorem mentions_trans (hWord : w ≠ []) (h : mentions w name = true)
    (hName : mentions name script = true) : mentions w script = true := by
  obtain ⟨a, b, rfl, hBefore, hBehind⟩ := (mentions_iff hWord).mp h
  have hne : a ++ w ++ b ≠ [] := by simp [hWord]
  obtain ⟨x, y, rfl, hLeft, hRight⟩ := (mentions_iff hne).mp hName
  refine (mentions_iff hWord).mpr ⟨x ++ a, b ++ y, by simp, ?_, ?_⟩
  · rcases List.eq_nil_or_concat a with rfl | ⟨a, d, rfl⟩
    · -- the word begins the name
      obtain ⟨d, v, rfl⟩ := List.exists_cons_of_ne_nil hWord
      rw [List.append_nil]
      exact hLeft
    · rw [List.concat_eq_append, List.getLast?_concat] at hBefore
      rwa [List.concat_eq_append, ← List.append_assoc, List.getLast?_concat]
  · cases b with
    | nil =>
      -- the word ends the name
      rw [List.append_nil, List.getLast?_append_of_ne_nil a hWord] at hRight
      exact hRight
    | cons d b => exact hBehind

end Script

end SketchRepair
