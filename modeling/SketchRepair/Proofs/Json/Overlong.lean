import Mathlib.Data.List.Infix
import SketchRepair.Json.Parser

/-!
# SketchRepair — numbers that are too long to be read

Text that is no JSON is met everywhere, and reading goes on elsewhere when it is. A
whole number of too many digits is something else: it is refused for good. Such a
number is always there to be seen. Reading goes through a text from left to right,
what is left of it is always an end of it, and the digits that were too many stand in
it in a row.

* `Within` — what reading from a place on may lead to;
* `readText_within`, `readScalar_within`, `readValue_within` — one lemma for each
  part of the grammar;
* `exists_run_of_parse` — a number that is too long is a run of digits in the text.
-/

namespace SketchRepair

namespace Json

/-- Decimal digits in a row, more than are read, and `n` of them. -/
structure IsOverlong (n : Nat) (run : Text) : Prop where
  digits : ∀ c ∈ run, isAsciiDigit c = true
  length : run.length = n
  limit : Decimal.digitLimit < n

/-- What reading from `t` on may lead to: what is left is an end of `t`, and a number
that is too long stands in `t`. -/
structure Within {α : Type} (t : Text) (x : Reading α) : Prop where
  rest : ∀ {a r}, x = .ok (a, r) → r <:+ t
  overlong : ∀ {n}, x = .error (.tooLong n) → ∃ run, IsOverlong n run ∧ run <:+: t

variable {α β : Type} {t u : Text} {x : Reading α}

-- ---------------------------------------------------------------------------
-- Steps of a reading
-- ---------------------------------------------------------------------------

namespace Within

theorem ofOk {a : α} {r : Text} (h : r <:+ t) : Within t (.ok (a, r)) := by
  constructor
  · intro b s hOk
    rw [Except.ok.injEq, Prod.mk.injEq] at hOk
    exact hOk.2 ▸ h
  · intro n hError
    simp at hError

theorem ofFault (u t : Text) : Within t (faultAt u : Reading α) := by
  constructor
  · intro a r hOk
    simp [faultAt] at hOk
  · intro n hError
    simp [faultAt] at hError

theorem ofError {e : Fault} (h : Within t x) (hx : x = .error e) :
    Within t (.error e : Reading β) := by
  constructor
  · intro a r hOk
    simp at hOk
  · intro n hError
    rw [Except.error.injEq] at hError
    exact h.overlong (hError ▸ hx)

/-- What is read behind a beginning of the text is read in the text. -/
theorem mono (h : Within t x) (hSuffix : t <:+ u) : Within u x := by
  constructor
  · intro a r hOk
    exact (h.rest hOk).trans hSuffix
  · intro n hError
    obtain ⟨run, hRun, hInfix⟩ := h.overlong hError
    exact ⟨run, hRun, hInfix.trans hSuffix.isInfix⟩

theorem map (h : Within t x) (f : α → β) : Within t (x.map fun (a, r) => (f a, r)) := by
  cases hx : x with
  | error e => exact h.ofError hx
  | ok found =>
    obtain ⟨a, r⟩ := found
    exact .ofOk (h.rest hx)

end Within

theorem skip_suffix (t : Text) : skip t <:+ t := List.dropWhile_suffix _

theorem suffix_of_skip_eq {c : Char} {r : Text} (h : skip t = c :: r) : r <:+ t :=
  (List.suffix_cons c r).trans (h ▸ skip_suffix t)

theorem after?_suffix {p r : Text} (h : Text.after? p t = some r) : r <:+ t :=
  ⟨p, (Text.after?_eq_some.mp h).symm⟩

-- ---------------------------------------------------------------------------
-- Texts
-- ---------------------------------------------------------------------------

theorem fourHex?_suffix {n : Nat} {r : Text} (h : fourHex? t = some (n, r)) : r <:+ t := by
  match t with
  | [] | [_] | [_, _] | [_, _, _] | [_, _, _, _] => simp [fourHex?] at h
  | a :: b :: c :: d :: e :: t =>
    rw [fourHex?] at h
    split at h
    · obtain ⟨-, rfl⟩ := Prod.mk.inj (Option.some.inj h)
      exact ⟨[a, b, c, d], rfl⟩
    · simp at h

theorem readText_within (opened : Text) (fuel : Nat) (t : Text) :
    Within t (readText opened fuel t) := by
  induction fuel generalizing t with
  | zero => exact .ofFault _ _
  | succ fuel ih =>
    -- behind any character or escape the rest of the text is read
    have hBehind {r : Text} (hr : r <:+ t) : Within t (readText opened fuel r) := (ih r).mono hr
    unfold readText
    split
    · exact .ofFault _ _
    · exact .ofOk (List.suffix_cons _ _)
    · next r =>
      have hEscape : r <:+ '\\' :: 'u' :: r := ⟨['\\', 'u'], rfl⟩
      split
      · exact .ofFault _ _
      · next n r' hHex =>
        have hr' := (fourHex?_suffix hHex).trans hEscape
        split
        · next low =>
          split
          · split
            · exact .ofFault _ _
            · next m r'' hLow =>
              have hLower : low <:+ '\\' :: 'u' :: low := ⟨['\\', 'u'], rfl⟩
              have hr'' := ((fourHex?_suffix hLow).trans hLower).trans hr'
              split
              · exact (hBehind hr'').map (List.cons _)
              · exact (hBehind hr').map (List.cons _)
          · exact (hBehind hr').map (List.cons _)
        · exact (hBehind hr').map (List.cons _)
    · exact .ofFault _ _
    · next c r _ =>
      split
      · exact .ofFault _ _
      · exact (hBehind ⟨['\\', c], rfl⟩).map (List.cons _)
    · next c r _ _ _ _ =>
      split
      · exact .ofFault _ _
      · exact (hBehind (List.suffix_cons _ _)).map (List.cons _)

-- ---------------------------------------------------------------------------
-- Numbers and words
-- ---------------------------------------------------------------------------

theorem fraction?_suffix {ds r : Text} (h : fraction? t = some (ds, r)) : r <:+ t := by
  unfold fraction? at h
  split at h
  · next u =>
    dsimp only at h
    split at h
    · simp at h
    · obtain ⟨-, rfl⟩ := Prod.mk.inj (Option.some.inj h)
      exact (List.drop_suffix _ u).trans (List.suffix_cons _ _)
  · simp at h

/-- The sign of an exponent, and what follows it. -/
def signed (t : Text) : Bool × Text :=
  match t with
  | '-' :: r => (true, r)
  | '+' :: r => (false, r)
  | r => (false, r)

theorem signed_suffix (t : Text) : (signed t).2 <:+ t := by
  unfold signed
  split
  · exact List.suffix_cons _ _
  · exact List.suffix_cons _ _
  · exact List.suffix_refl _

theorem exponent?_cons (c : Char) (t : Text) :
    exponent? (c :: t) =
      if c = 'e' ∨ c = 'E' then
        let ds := (signed t).2.takeWhile isAsciiDigit
        if ds.isEmpty then none
        else
          let n : Int := Decimal.ofDigits (ds.map asciiDigit)
          some (if (signed t).1 then -n else n, (signed t).2.drop ds.length)
      else none := rfl

theorem exponent?_suffix {n : Int} {r : Text} (h : exponent? t = some (n, r)) : r <:+ t := by
  cases t with
  | nil => simp [exponent?] at h
  | cons c t =>
    rw [exponent?_cons] at h
    split at h
    · dsimp only at h
      split at h
      · simp at h
      · obtain ⟨-, rfl⟩ := Prod.mk.inj (Option.some.inj h)
        exact ((List.drop_suffix _ _).trans (signed_suffix t)).trans (List.suffix_cons _ _)
    · simp at h

/-- The digits that a number begins with; a zero stands alone. -/
def leadingDigits (t : Text) : Text :=
  match t with
  | '0' :: _ => ['0']
  | _ => t.takeWhile isAsciiDigit

theorem leadingDigits_prefix (t : Text) :
    leadingDigits t <+: t ∧ ∀ c ∈ leadingDigits t, isAsciiDigit c = true := by
  unfold leadingDigits
  split
  · refine ⟨⟨_, rfl⟩, ?_⟩
    intro c hc
    rw [List.mem_singleton.mp hc]
    rfl
  · exact ⟨List.takeWhile_prefix _, List.all_eq_true.mp List.all_takeWhile⟩

/-- Fraction and exponent behind the digits of a number, and what follows them. -/
def fractionAndPower (t : Text) : Text × Int × Text :=
  let (places, r) := (fraction? t).getD ([], t)
  let (power, r') := (exponent? r).getD (0, r)
  (places, power, r')

theorem fractionAndPower_suffix (t : Text) : (fractionAndPower t).2.2 <:+ t := by
  have hPower (r : Text) : ((exponent? r).getD (0, r)).2 <:+ r := by
    cases h : exponent? r with
    | none => exact List.suffix_refl r
    | some found => exact exponent?_suffix h
  show ((exponent? ((fraction? t).getD ([], t)).2).getD (0, ((fraction? t).getD ([], t)).2)).2 <:+ t
  refine (hPower _).trans ?_
  cases h : fraction? t with
  | none => exact List.suffix_refl t
  | some found => exact fraction?_suffix h

theorem readDigits_eq (negative : Bool) (t : Text) :
    readDigits negative t =
      if (leadingDigits t).isEmpty then none
      else
        let behind := t.drop (leadingDigits t).length
        let (places, power, rest) := fractionAndPower behind
        some <|
          if rest.length = behind.length then
            match Decimal.readDigits ((leadingDigits t).map asciiDigit) with
            | .ok n => .ok (.whole (if negative then -(n : Int) else n), behind)
            | .error (.tooLong n) => .error (.tooLong n)
            | .error (.malformed _) => faultAt behind
          else
            let digits := (leadingDigits t ++ places).map asciiDigit
            .ok (.real (Decimal.nearest negative digits (power - places.length)), rest) := rfl

theorem readDigits_within {negative : Bool} {y : Reading Number}
    (h : readDigits negative t = some y) : Within t y := by
  obtain ⟨hPrefix, hDigits⟩ := leadingDigits_prefix t
  rw [readDigits_eq] at h
  split at h
  · simp at h
  · rw [Option.some.injEq] at h
    subst h
    have hBehind : t.drop (leadingDigits t).length <:+ t := List.drop_suffix _ _
    split
    · split
      · exact .ofOk hBehind
      · next n hRead =>
        -- these are the digits that are too many
        rw [Decimal.readDigits, List.length_map] at hRead
        split at hRead
        · simp at hRead
        · next hLimit =>
          rw [Except.error.injEq, Decimal.ReadError.tooLong.injEq] at hRead
          constructor
          · intro a r hOk
            simp at hOk
          · intro m hError
            rw [Except.error.injEq, Fault.tooLong.injEq] at hError
            exact ⟨leadingDigits t, ⟨hDigits, by omega, by omega⟩, hPrefix.isInfix⟩
      · exact .ofFault _ _
    · exact .ofOk ((fractionAndPower_suffix _).trans hBehind)

theorem readNumber_within (t : Text) : Within t (readNumber t) := by
  unfold readNumber
  dsimp only
  split
  · next r =>
    cases h : readDigits true r with
    | none => exact .ofFault _ _
    | some y => exact (readDigits_within h).mono (List.suffix_cons _ _)
  · cases h : readDigits false t with
    | none => exact .ofFault _ _
    | some y => exact readDigits_within h

theorem readScalar_within (t : Text) : Within t (readScalar t) := by
  unfold readScalar
  split
  · next reading hWord =>
    obtain ⟨⟨w, v⟩, -, hAfter⟩ := List.exists_of_findSome?_eq_some hWord
    obtain ⟨r, hr, rfl⟩ := Option.map_eq_some_iff.mp hAfter
    exact .ofOk (after?_suffix hr)
  · exact (readNumber_within t).map Json.num

-- ---------------------------------------------------------------------------
-- Values
-- ---------------------------------------------------------------------------

/-- Values, items and fields are read by each other, each with less fuel. -/
theorem readValue_within (fuel : Nat) :
    (∀ t, Within t (readValue fuel t)) ∧ (∀ t, Within t (readItems fuel t)) ∧
      ∀ fields t, Within t (readFields fuel fields t) := by
  induction fuel with
  | zero => exact ⟨fun _ => .ofFault _ _, fun _ => .ofFault _ _, fun _ _ => .ofFault _ _⟩
  | succ fuel ih =>
    obtain ⟨hValue, hItems, hFields⟩ := ih
    refine ⟨?_, ?_, ?_⟩
    · intro t
      unfold readValue
      split
      · exact ((readText_within _ _ _).mono (List.suffix_cons _ _)).map Json.str
      · next r =>
        split
        · next r' h => exact .ofOk ((suffix_of_skip_eq h).trans (List.suffix_cons _ _))
        · exact ((hFields [] _).mono ((skip_suffix r).trans (List.suffix_cons _ _))).map Json.obj
      · next r =>
        split
        · next r' h => exact .ofOk ((suffix_of_skip_eq h).trans (List.suffix_cons _ _))
        · exact ((hItems _).mono ((skip_suffix r).trans (List.suffix_cons _ _))).map Json.arr
      · exact readScalar_within t
    · intro t
      unfold readItems
      split
      · next e h => exact (hValue t).ofError h
      · next v r h =>
        have hr : r <:+ t := (hValue t).rest h
        split
        · next r' hSkip => exact .ofOk ((suffix_of_skip_eq hSkip).trans hr)
        · next r' hSkip =>
          have hr' := (skip_suffix r').trans ((suffix_of_skip_eq hSkip).trans hr)
          exact ((hItems _).mono hr').map (v :: ·)
        · exact .ofFault _ _
    · intro fields t
      unfold readFields
      split
      · next r =>
        have hName := (readText_within ('"' :: r) (r.length + 1) r).mono
          (List.suffix_cons '"' r)
        split
        · next e h => exact hName.ofError h
        · next name r₁ h =>
          have hr₁ := hName.rest h
          split
          · next r₂ hColon =>
            have hr₂ := (skip_suffix r₂).trans ((suffix_of_skip_eq hColon).trans hr₁)
            have hRead := (hValue (skip r₂)).mono hr₂
            split
            · next e hError => exact hRead.ofError hError
            · next v r₃ hOk =>
              have hr₃ := hRead.rest hOk
              split
              · next r₄ hSkip => exact .ofOk ((suffix_of_skip_eq hSkip).trans hr₃)
              · next r₄ hSkip =>
                exact (hFields _ _).mono
                  ((skip_suffix r₄).trans ((suffix_of_skip_eq hSkip).trans hr₃))
              · exact .ofFault _ _
          · exact .ofFault _ _
      · exact .ofFault _ _

/-- A number that is too long to be read is a run of digits in the text. -/
theorem exists_run_of_parse {n : Nat} (h : parse t = .error (.tooLong n)) :
    ∃ run, IsOverlong n run ∧ run <:+: t := by
  have hRead := ((readValue_within (2 * t.length + 2)).1 (skip t)).mono (skip_suffix t)
  unfold parse at h
  split at h
  · simp at h
  · simp at h
  · next m hAll =>
    rw [Except.error.injEq, Fault.tooLong.injEq] at h
    subst h
    unfold readAll at hAll
    split at hAll
    · next e hError =>
      rw [Except.error.injEq] at hAll
      subst hAll
      exact hRead.overlong hError
    · split at hAll
      · simp at hAll
      · simp [faultAt] at hAll

end Json

end SketchRepair
