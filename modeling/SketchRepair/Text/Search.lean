import SketchRepair.Text.Basic

/-!
# SketchRepair — searching a text

A *matcher* looks at the beginning of a text. The operators here try a matcher
at every place from left to right: `search` finds the first place where it
succeeds, `spans` lists the places of all matches that do not overlap, and
`replaceEach` replaces every match. A matcher of `spans` also sees the character
before the place it is tried at.

The law of `search` is `search_eq_some`: what it skips, put before what it
matched on, is the text it was given.
-/

namespace SketchRepair

namespace Text

/-! ## The first match -/

/-- The text before the first place where `m` succeeds, and what it found there. -/
def search {α : Type} (m : Text → Option α) : Text → Option (Text × α)
  | [] => (m []).map ([], ·)
  | c :: t =>
    match m (c :: t) with
    | some a => some ([], a)
    | none => (search m t).map fun (before, a) => (c :: before, a)

/-- What `m` finds at the first place where it succeeds. -/
def find? {α : Type} (m : Text → Option α) (t : Text) : Option α := (search m t).map (·.2)

/-- Does `m` hold of the text from some place on? -/
def holdsSomewhere (m : Text → Bool) : Text → Bool
  | [] => m []
  | c :: t => m (c :: t) || holdsSomewhere m t

theorem search_eq_some {α : Type} {m : Text → Option α} : ∀ {t before : Text} {a : α},
    search m t = some (before, a) → ∃ rest, t = before ++ rest ∧ m rest = some a
  | [], before, a, h => by
    obtain ⟨b, hb, he⟩ := Option.map_eq_some_iff.mp h
    obtain ⟨rfl, rfl⟩ : [] = before ∧ b = a := by simpa using he
    exact ⟨[], rfl, hb⟩
  | c :: t, before, a, h => by
    rw [search] at h
    split at h
    · next b hb =>
      obtain ⟨rfl, rfl⟩ : [] = before ∧ b = a := by simpa using h
      exact ⟨c :: t, rfl, hb⟩
    · obtain ⟨⟨b, x⟩, hb, he⟩ := Option.map_eq_some_iff.mp h
      obtain ⟨rfl, rfl⟩ : c :: b = before ∧ x = a := by simpa using he
      obtain ⟨rest, rfl, hm⟩ := search_eq_some hb
      exact ⟨rest, by simp, hm⟩

/-! ## All matches -/

/-- The places of the matches of `m` that do not overlap, from left to right, as
pairs of first offset and offset behind. `m` sees the character before the
place and the text from there, and answers with the length of its match. The
arguments are the characters still covered by the last match, the offset of the
text, and the character before it. -/
def spansFrom (m : Option Char → Text → Option Nat) :
    Nat → Nat → Option Char → Text → List (Nat × Nat)
  | covered, i, prev, [] =>
    if covered = 0 ∧ m prev [] = some 0 then [(i, i)] else []
  | covered + 1, i, _, c :: t => spansFrom m covered (i + 1) (some c) t
  | 0, i, prev, c :: t =>
    match m prev (c :: t) with
    | some n => (i, i + n) :: spansFrom m (n - 1) (i + 1) (some c) t
    | none => spansFrom m 0 (i + 1) (some c) t

/-- The places of all matches of `m` in a text. -/
def spans (m : Option Char → Text → Option Nat) (t : Text) : List (Nat × Nat) :=
  spansFrom m 0 0 none t

def between (span : Nat × Nat) (t : Text) : Text := (t.take span.2).drop span.1

/-! ## Replacing all matches -/

/-- Replaces every match of `m` from left to right and counts the matches. `m`
answers with the replacement and with what follows its match. The first
argument is the number of characters still covered by the last match. -/
def replaceEachFrom (m : Text → Option (Text × Text)) : Nat → Text → Text × Nat
  | _, [] => ([], 0)
  | covered + 1, _ :: t => replaceEachFrom m covered t
  | 0, c :: t =>
    match m (c :: t) with
    | some (new, rest) =>
      let (out, n) := replaceEachFrom m (t.length - rest.length) t
      (new ++ out, n + 1)
    | none =>
      let (out, n) := replaceEachFrom m 0 t
      (c :: out, n)

/-- The text with every match of `m` replaced, and the number of matches. -/
def replaceEach (m : Text → Option (Text × Text)) (t : Text) : Text × Nat := replaceEachFrom m 0 t

end Text

end SketchRepair
