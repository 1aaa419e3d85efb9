/-!
# SketchRepair — texts

Pages, scripts, style sheets and answers are all texts: lists of code points,
so every offset, length and column counts code points. This module holds the
operations that know nothing of any markup: what follows a given beginning,
the first occurrence of a text in another, replacing that occurrence, lines,
and signed offsets into a sequence.

Facts that other modules lean on:

* `upTo?_eq_some` — a text split at a character is the text before its first
  occurrence, the character, and the rest;
* `cut?_eq_some` — cutting at an occurrence loses nothing;
* `unlines_lines` — joining the lines of a text gives the text back.
-/

namespace SketchRepair

/-- A text, as the list of its code points. -/
abbrev Text := List Char

namespace Text

/-! ## Beginnings and occurrences -/

/-- What follows `p`, when the text begins with `p`. -/
def after? : (p t : Text) → Option Text
  | [], t => some t
  | _ :: _, [] => none
  | a :: p, c :: t => if a = c then after? p t else none

def startsWith (p t : Text) : Bool := (after? p t).isSome

def endsWith (p t : Text) : Bool := startsWith p.reverse t.reverse

/-- Does the text end with one of the given texts? -/
def endsWithAny (ps : List Text) (t : Text) : Bool := ps.any (endsWith · t)

/-- What stands before and after the first occurrence of `p`. -/
def cut? (p : Text) : Text → Option (Text × Text)
  | [] => if p.isEmpty then some ([], []) else none
  | c :: t =>
    match after? p (c :: t) with
    | some rest => some ([], rest)
    | none => (cut? p t).map fun (before, rest) => (c :: before, rest)

def has (p t : Text) : Bool := (cut? p t).isSome

/-- Does one of the given texts occur in the text? -/
def hasAny (ps : List Text) (t : Text) : Bool := ps.any (has · t)

/-- The text with the first occurrence of `old` replaced by `new`; the text
itself when `old` does not occur. -/
def replaceFirst (old new t : Text) : Text :=
  match cut? old t with
  | some (before, rest) => before ++ new ++ rest
  | none => t

/-- The text up to the first `q`, and what follows that `q`. -/
def upTo? (q : Char) : Text → Option (Text × Text)
  | [] => none
  | c :: t =>
    if c = q then some ([], t) else (upTo? q t).map fun (before, rest) => (c :: before, rest)

theorem upTo?_eq_some {q : Char} : ∀ {t before rest : Text},
    upTo? q t = some (before, rest) ↔ t = before ++ q :: rest ∧ q ∉ before
  | [], before, rest => by simp [upTo?]
  | c :: t, before, rest => by
    rw [upTo?]
    split
    · next h =>
      subst h
      cases before with
      | nil => simp
      | cons b bs => simp; intro h; simp [h]
    · next h =>
      cases before with
      | nil => simp [h]
      | cons b bs =>
        simp only [Option.map_eq_some_iff, Prod.exists, Prod.mk.injEq, List.cons.injEq,
          List.cons_append, List.mem_cons, not_or]
        constructor
        · rintro ⟨a, r, ha, ⟨rfl, rfl⟩, rfl⟩
          obtain ⟨rfl, hq⟩ := upTo?_eq_some.mp ha
          exact ⟨⟨rfl, rfl⟩, fun e => h e.symm, hq⟩
        · rintro ⟨⟨rfl, ht⟩, _, hq⟩
          exact ⟨bs, rest, upTo?_eq_some.mpr ⟨ht, hq⟩, ⟨rfl, rfl⟩, rfl⟩

theorem after?_eq_some : ∀ {p t rest : Text}, after? p t = some rest ↔ t = p ++ rest
  | [], t, rest => by simp [after?]
  | a :: p, [], rest => by simp [after?]
  | a :: p, c :: t, rest => by
    by_cases h : a = c
    · simp [after?, h, after?_eq_some (p := p)]
    · simp [after?, h, Ne.symm h]

/-- Cutting at an occurrence loses nothing. -/
theorem cut?_eq_some {p : Text} : ∀ {t before rest : Text},
    cut? p t = some (before, rest) → t = before ++ p ++ rest
  | [], before, rest, h => by
    cases p <;> simp_all [cut?]
  | c :: t, before, rest, h => by
    rw [cut?] at h
    split at h
    · next r hr =>
      obtain ⟨rfl, rfl⟩ : [] = before ∧ r = rest := by simpa using h
      simpa using after?_eq_some.mp hr
    · obtain ⟨⟨b, r⟩, hb, he⟩ := Option.map_eq_some_iff.mp h
      obtain ⟨rfl, rfl⟩ : c :: b = before ∧ r = rest := by simpa using he
      simpa using cut?_eq_some hb

/-! ## Lines -/

/-- The lines of a text: the pieces between its line feeds. There is always at
least one. -/
def lines : Text → List Text
  | [] => [[]]
  | c :: t =>
    if c = '\n' then [] :: lines t
    else
      match lines t with
      | [] => [[c]]
      | l :: ls => (c :: l) :: ls

/-- The pieces joined with a separator between neighbours. -/
def joinWith (sep : Text) : List Text → Text
  | [] => []
  | [l] => l
  | l :: ls => l ++ sep ++ joinWith sep ls

def unlines (ls : List Text) : Text := joinWith ['\n'] ls

/-- The pieces of a text between the characters that `p` picks, without empty
pieces. -/
def pieces (p : Char → Bool) (t : Text) : List Text :=
  (t.foldr (fun c acc =>
      if p c then [] :: acc
      else
        match acc with
        | [] => [[c]]
        | w :: ws => (c :: w) :: ws) [[]]).filter (· ≠ [])

theorem lines_ne_nil (t : Text) : lines t ≠ [] := by
  cases t with
  | nil => simp [lines]
  | cons c t =>
    rw [lines]
    split
    · simp
    · split <;> simp

theorem unlines_lines (t : Text) : unlines (lines t) = t := by
  induction t with
  | nil => rfl
  | cons c t ih =>
    rw [lines]
    split
    · next h =>
      subst h
      cases hl : lines t with
      | nil => exact absurd hl (lines_ne_nil t)
      | cons l ls =>
        rw [hl] at ih
        simpa [unlines, joinWith] using ih
    · split
      · next hl => exact absurd hl (lines_ne_nil t)
      · next l ls hl =>
        rw [hl] at ih
        cases ls with
        | nil => simpa [unlines, joinWith] using ih
        | cons l' ls => simpa [unlines, joinWith] using ih

end Text

/-! ## Signed offsets

A negative offset counts from the end of a sequence; an offset outside the
sequence means its nearer end. -/

namespace Offset

/-- The place that a signed offset names in a sequence of `n` items. -/
def place (n : Nat) (i : Int) : Nat := if i < 0 then (i + n).toNat else min i.toNat n

def before {α : Type} (i : Int) (xs : List α) : List α := xs.take (place xs.length i)

/-- The items from a signed offset on. -/
def beyond {α : Type} (i : Int) (xs : List α) : List α := xs.drop (place xs.length i)

/-- The items from one signed offset up to another, which is left out. -/
def slice {α : Type} (i j : Int) (xs : List α) : List α :=
  (xs.take (place xs.length j)).drop (place xs.length i)

/-- The item at a signed offset, when there is one. -/
def item? {α : Type} (i : Int) (xs : List α) : Option α :=
  if i < 0 then if 0 ≤ i + xs.length then xs[(i + xs.length).toNat]? else none else xs[i.toNat]?

end Offset

end SketchRepair
