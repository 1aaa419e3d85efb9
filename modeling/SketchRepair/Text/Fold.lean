import SketchRepair.Text.Basic

/-!
# SketchRepair — matching without regard to case

Tags and error messages are recognised in any letter case. Patterns are written
in lower-case ASCII; a character stands for an ASCII letter when its simple
case folding is that letter, so besides the capitals the long s stands for `s`,
the Kelvin sign for `k`, and the dotted capital and the dotless small I for `i`.
-/

namespace SketchRepair

/-- The character that `c` stands for when case is ignored. -/
def fold (c : Char) : Char :=
  if c.isUpper then c.toLower
  else if c = '\u017F' then 's'
  else if c = '\u212A' then 'k'
  else if c = '\u0130' ∨ c = '\u0131' then 'i'
  else c

namespace Text

/-- What follows `p`, when the text begins with `p` in any letter case. -/
def afterFold? : (p t : Text) → Option Text
  | [], t => some t
  | _ :: _, [] => none
  | a :: p, c :: t => if a = fold c then afterFold? p t else none

/-- Does the text begin with `p` in any letter case? -/
def startsWithFold (p t : Text) : Bool := (afterFold? p t).isSome

/-- Does `p` occur in the text in any letter case? -/
def hasFold (p : Text) : Text → Bool
  | [] => p.isEmpty
  | c :: t => startsWithFold p (c :: t) || hasFold p t

theorem afterFold?_eq_some : ∀ {p t rest : Text}, afterFold? p t = some rest →
    t = t.take p.length ++ rest ∧ (t.take p.length).map fold = p ∧ p.length + rest.length = t.length
  | [], t, rest, h => by simp_all [afterFold?]
  | a :: p, [], rest, h => by simp [afterFold?] at h
  | a :: p, c :: t, rest, h => by
    rw [afterFold?] at h
    split at h
    · next ha =>
      obtain ⟨h1, h2, h3⟩ := afterFold?_eq_some h
      refine ⟨by simpa using h1, by simp [h2, ha], by simp; omega⟩
    · simp at h

end Text

end SketchRepair
