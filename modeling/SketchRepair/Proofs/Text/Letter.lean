import SketchRepair.Text.LowerCase

/-!
# SketchRepair — letters of ASCII

A text of ASCII has a lower case that does not depend on its words: each character is
taken by itself.

* `lt_of_isAlphanum`, `lt_of_isAlpha` — letters and digits are characters of ASCII;
* `toLower_of_ascii` — the lower case of a text of such characters;
* `isAlpha_toLower` — letters stay letters.
-/

namespace SketchRepair

namespace Text

variable {c : Char}

/-- Letters and digits of ASCII. -/
theorem lt_of_isAlphanum (h : c.isAlphanum = true) : c.toNat < 128 := by
  have hBelow {last : UInt32} (hLast : last.toNat < 128) (hc : c.val ≤ last) : c.toNat < 128 :=
    Nat.lt_of_le_of_lt (UInt32.le_iff_toNat_le.mp hc) hLast
  change ((c.isUpper || c.isLower) || c.isDigit) = true at h
  rw [Bool.or_eq_true, Bool.or_eq_true] at h
  rcases h with (h | h) | h
  · exact hBelow (by decide) (of_decide_eq_true h).2
  · exact hBelow (by decide) (of_decide_eq_true (Bool.and_eq_true_iff.mp h).2)
  · exact hBelow (by decide) (of_decide_eq_true (Bool.and_eq_true_iff.mp h).2)

theorem lt_of_isAlpha (h : c.isAlpha = true) : c.toNat < 128 := by
  refine lt_of_isAlphanum ?_
  rw [Char.isAlphanum, h, Bool.true_or]

/-- Letters stay letters in lower case. -/
theorem isAlpha_toLower (h : c.isAlpha = true) : c.toLower.isAlpha = true := by
  have hAll : ∀ n < 128, (Char.ofNat n).isAlpha = true → (Char.ofNat n).toLower.isAlpha = true := by
    decide
  have hHere := hAll c.toNat (lt_of_isAlpha h)
  rw [Char.ofNat_toNat] at hHere
  exact hHere h

theorem lowerFrom_of_ascii {t : Text} (h : ∀ c ∈ t, c.toNat < 128) :
    ∀ before : Text, lowerFrom before t = t.map Char.toLower := by
  induction t with
  | nil => exact fun _ => rfl
  | cons c t ih =>
    intro before
    have hc : c.toNat < 128 := h c (List.mem_cons_self ..)
    have hSigma : c ≠ sigma := by
      rintro rfl
      exact absurd hc (by decide)
    rw [lowerFrom, if_neg fun hEnd => hSigma hEnd.1, lowerChar, if_pos hc,
      ih fun d hd => h d (List.mem_cons_of_mem c hd)]
    rfl

/-- The lower case of ASCII goes character by character. -/
theorem toLower_of_ascii {t : Text} (h : ∀ c ∈ t, c.toNat < 128) :
    toLower t = t.map Char.toLower :=
  lowerFrom_of_ascii h []

end Text

end SketchRepair
