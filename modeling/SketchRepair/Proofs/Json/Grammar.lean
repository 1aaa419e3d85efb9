import Mathlib.Data.List.TakeWhile
import SketchRepair.Proofs.Json.Scalar

/-!
# SketchRepair — the texts that JSON values are written in

A value is read from a text of its own, and what stands behind it is left. Which texts
these are is said by rules, one for each form of a value. The rules mention neither the fuel
of the parser nor what follows a value, so the parser reads a value from its own text alone.

* `IsText` — a text between its quotes, with its escapes;
* `Written` — values, items and fields as they are written;
* `exists_written` — what is read is written by the rules;
* `Written.reads` — what is written by the rules is read, whatever follows;
* `parse_eq_ok_iff` — a JSON text is a written value with blanks around it.
-/

namespace SketchRepair

namespace Json

variable {t r s body used : Text} {v : Json} {fuel n : Nat}

-- ---------------------------------------------------------------------------
-- Blanks
-- ---------------------------------------------------------------------------

/-- Blanks of a JSON text, and nothing else. -/
def Spaces (t : Text) : Prop := ∀ c ∈ t, isSpace c = true

/-- What is skipped is blank. -/
theorem exists_spaces (t : Text) : ∃ gap, Spaces gap ∧ t = gap ++ skip t :=
  ⟨t.takeWhile isSpace, List.all_eq_true.mp List.all_takeWhile,
    List.takeWhile_append_dropWhile.symm⟩

/-- Blanks are skipped up to a character that is none. -/
theorem skip_append {gap : Text} (hGap : Spaces gap) {c : Char} (hc : isSpace c = false)
    (t : Text) : skip (gap ++ c :: t) = c :: t := by
  rw [skip, List.dropWhile_append_of_pos hGap, List.dropWhile_cons_of_neg (by simp [hc])]

theorem skip_of_spaces (h : Spaces t) : skip t = [] := List.dropWhile_eq_nil_iff.mpr h

theorem isSpace_eq_false_of_isScalarChar {c : Char} (h : isScalarChar c = true) :
    isSpace c = false := by
  refine Bool.eq_false_iff.mpr fun hSpace => ?_
  simp only [isSpace, Bool.or_eq_true, decide_eq_true_eq] at hSpace
  rcases hSpace with ((rfl | rfl) | rfl) | rfl <;> exact absurd h (by decide)

/-- No number or word goes on in blanks. -/
theorem Spaces.stops {gap : Text} (hGap : Spaces gap) {r : Text} (h : Stops isScalarChar r) :
    Stops isScalarChar (gap ++ r) := by
  cases gap with
  | nil => exact h
  | cons c gap =>
    refine Stops.cons (Bool.eq_false_iff.mpr fun hc => ?_) _
    have hSpace := hGap c (List.mem_cons_self ..)
    rw [isSpace_eq_false_of_isScalarChar hc] at hSpace
    simp at hSpace

-- ---------------------------------------------------------------------------
-- Texts
-- ---------------------------------------------------------------------------

/-- Four characters that give a number, when something follows them. -/
structure IsFourHex (h : Text) (n : Nat) : Prop where
  unbroken : '\n' ∉ h
  reads : ∀ r, r ≠ [] → fourHex? (h ++ r) = some (n, r)

/-- The first half of a pair. -/
abbrev IsHigh (n : Nat) : Prop := 0xD800 ≤ n ∧ n < 0xDC00

/-- The second half of a pair. -/
abbrev IsLow (n : Nat) : Prop := 0xDC00 ≤ n ∧ n < 0xE000

/-- The second half of a pair stands here. -/
def BeginsLow (t : Text) : Prop :=
  ∃ l m rest, t = '\\' :: 'u' :: (l ++ rest) ∧ rest ≠ [] ∧ IsFourHex l m ∧ IsLow m

/-- A text as it is written behind its opening quote, the closing one included. -/
inductive IsText : (s body : Text) → Prop where
  | close : IsText [] ['"']
  | plain {c : Char} {s body : Text} (hQuote : c ≠ '"') (hEscape : c ≠ '\\')
      (hVisible : 32 ≤ c.toNat) (hRest : IsText s body) : IsText (c :: s) (c :: body)
  | escape {c e : Char} {s body : Text} (hEscaped : escaped? c = some e) (hRest : IsText s body) :
      IsText (e :: s) ('\\' :: c :: body)
  /-- A character by its number; half of a pair stands alone here. -/
  | code {h s body : Text} {n : Nat} (hHex : IsFourHex h n) (hAlone : ¬ (IsHigh n ∧ BeginsLow body))
      (hRest : IsText s body) : IsText (codePoint n :: s) ('\\' :: 'u' :: (h ++ body))
  | pair {h l s body : Text} {n m : Nat} (hHex : IsFourHex h n) (hHigh : IsHigh n)
      (hLower : IsFourHex l m) (hLow : IsLow m) (hRest : IsText s body) :
      IsText (Char.ofNat (0x10000 + (n - 0xD800) * 0x400 + (m - 0xDC00)) :: s)
        ('\\' :: 'u' :: (h ++ '\\' :: 'u' :: (l ++ body)))

theorem exists_of_fourHex? (h : fourHex? t = some (n, r)) :
    r ≠ [] ∧ ∃ l, t = l ++ r ∧ IsFourHex l n := by
  have hDigit {c : Char} {d : Nat} (hc : hexValue? c = some d) : c ≠ '\n' := by
    rintro rfl
    simp [show hexValue? '\n' = none by decide] at hc
  match t with
  | [] | [_] | [_, _] | [_, _, _] | [_, _, _, _] => simp [fourHex?] at h
  | a :: b :: c :: d :: e :: t =>
    rw [fourHex?] at h
    split at h
    · next ha hb hc hd =>
      obtain ⟨rfl, rfl⟩ := Prod.mk.inj (Option.some.inj h)
      refine ⟨List.cons_ne_nil e t, [a, b, c, d], rfl, ?_, fun r hr => ?_⟩
      · simp [(hDigit ha).symm, (hDigit hb).symm, (hDigit hc).symm, (hDigit hd).symm]
      · obtain ⟨x, r, rfl⟩ := List.exists_cons_of_ne_nil hr
        simp only [List.cons_append, List.nil_append, fourHex?, ha, hb, hc, hd]
    · simp at h

theorem IsText.ne_nil (h : IsText s body) : body ≠ [] := by
  cases h <;> exact List.cons_ne_nil _ _

/-- Where an escape by number begins in a text, it stands there. -/
theorem IsText.exists_fourHex {low : Text} (h : IsText s body)
    (hText : body ++ r = '\\' :: 'u' :: low) : ∃ l m rest,
      body = '\\' :: 'u' :: (l ++ rest) ∧ low = l ++ (rest ++ r) ∧ rest ≠ [] ∧ IsFourHex l m := by
  cases h with
  | close => simp at hText
  | plain hQuote hEscape hVisible hRest => exact absurd (List.cons.inj hText).1 hEscape
  | @escape c e s body hEscaped hRest =>
    rw [List.cons_append, List.cons_append, List.cons.injEq, List.cons.injEq] at hText
    rw [hText.2.1, show escaped? 'u' = none from rfl] at hEscaped
    simp at hEscaped
  | @code l s body m hHex hAlone hRest =>
    refine ⟨l, m, body, rfl, ?_, hRest.ne_nil, hHex⟩
    simpa using hText.symm
  | @pair l l' s body m m' hHex hHigh hLower hLow hRest =>
    refine ⟨l, m, _, rfl, ?_, List.cons_ne_nil _ _, hHex⟩
    simpa using hText.symm

/-- A text is read up to its closing quote, whatever follows. -/
theorem IsText.reads (h : IsText s body) : ∀ (opened : Text) (fuel : Nat) (r : Text),
    body.length ≤ fuel → readText opened fuel (body ++ r) = .ok (s, r) := by
  induction h with
  | close =>
    intro opened fuel r hFuel
    obtain ⟨fuel, rfl⟩ := Nat.exists_eq_add_one.mpr hFuel
    rfl
  | @plain c s body hQuote hEscape hVisible hRest ih =>
    intro opened fuel r hFuel
    obtain ⟨fuel, rfl⟩ := Nat.exists_eq_add_one.mpr (Nat.lt_of_lt_of_le (Nat.succ_pos _) hFuel)
    have hBehind := ih opened fuel r (Nat.le_of_succ_le_succ hFuel)
    rw [List.cons_append]
    unfold readText
    split
    · next heq => simp at heq
    · next heq => exact absurd (List.cons.inj heq).1 hQuote
    · next heq => exact absurd (List.cons.inj heq).1 hEscape
    · next heq => exact absurd (List.cons.inj heq).1 hEscape
    · next heq => exact absurd (List.cons.inj heq).1 hEscape
    · next d u _ _ _ _ heq =>
      obtain ⟨rfl, rfl⟩ := List.cons.inj heq
      rw [if_neg (Nat.not_lt.mpr hVisible), hBehind]
      rfl
  | @escape c e s body hEscaped hRest ih =>
    intro opened fuel r hFuel
    rw [List.length_cons, List.length_cons] at hFuel
    obtain ⟨fuel, rfl⟩ := Nat.exists_eq_add_one.mpr (Nat.lt_of_lt_of_le (Nat.succ_pos _) hFuel)
    have hLetter : c ≠ 'u' := by
      rintro rfl
      rw [show escaped? 'u' = none from rfl] at hEscaped
      simp at hEscaped
    have hBehind := ih opened fuel r (by omega)
    rw [List.cons_append, List.cons_append]
    unfold readText
    simp only [hEscaped, hBehind]
    rfl
  | @code h s body n hHex hAlone hRest ih =>
    intro opened fuel r hFuel
    rw [List.length_cons, List.length_cons, List.length_append] at hFuel
    obtain ⟨fuel, rfl⟩ := Nat.exists_eq_add_one.mpr (Nat.lt_of_lt_of_le (Nat.succ_pos _) hFuel)
    have hSome : body ++ r ≠ [] := by simp [hRest.ne_nil]
    have hBehind := ih opened fuel r (by omega)
    rw [List.cons_append, List.cons_append, List.append_assoc]
    simp only [readText, hHex.reads _ hSome]
    split
    · next low heq =>
      obtain ⟨l, m, rest, hBody, rfl, hRestSome, hLower⟩ := hRest.exists_fourHex heq
      split
      · next hHigh =>
        -- the number that follows is no second half
        have hNotLow : ¬ IsLow m := fun hLow =>
          hAlone ⟨hHigh, l, m, rest, hBody, hRestSome, hLower, hLow⟩
        rw [hLower.reads _ (by simp [hRestSome])]
        dsimp only
        rw [if_neg hNotLow, hBehind]
        rfl
      · rw [hBehind]
        rfl
    · rw [hBehind]
      rfl
  | @pair h l s body n m hHex hHigh hLower hLow hRest ih =>
    intro opened fuel r hFuel
    rw [List.length_cons, List.length_cons, List.length_append, List.length_cons,
      List.length_cons, List.length_append] at hFuel
    obtain ⟨fuel, rfl⟩ := Nat.exists_eq_add_one.mpr (Nat.lt_of_lt_of_le (Nat.succ_pos _) hFuel)
    have hSome : body ++ r ≠ [] := by simp [hRest.ne_nil]
    have hBehind := ih opened fuel r (by omega)
    simp only [List.cons_append, List.append_assoc]
    simp only [readText, hHex.reads _ (List.cons_ne_nil _ _), hLower.reads _ hSome]
    rw [if_pos hHigh, if_pos hLow, hBehind]
    rfl

/-- What is behind a reading whose value was wrapped. -/
theorem eq_ok_of_map {α β : Type} {x : Reading α} {f : α → β} {b : β}
    (h : (x.map fun (a, r) => (f a, r)) = .ok (b, r)) : ∃ a, x = .ok (a, r) ∧ f a = b := by
  cases x with
  | error e => simp [Except.map] at h
  | ok found =>
    simp only [Except.map, Except.ok.injEq, Prod.mk.injEq] at h
    exact ⟨found.1, by rw [← h.2], h.1⟩

/-- A text that is read is written up to its closing quote. -/
theorem exists_of_readText {opened : Text} (h : readText opened fuel t = .ok (s, r)) :
    ∃ body, t = body ++ r ∧ IsText s body := by
  induction fuel generalizing t s with
  | zero => simp [readText, faultAt] at h
  | succ fuel ih =>
    unfold readText at h
    split at h
    · simp [faultAt] at h
    · obtain ⟨rfl, rfl⟩ := Prod.mk.inj (Except.ok.inj h)
      exact ⟨['"'], rfl, .close⟩
    · next u =>
      split at h
      · simp [faultAt] at h
      · next n u' hHex =>
        obtain ⟨hSome, l, rfl, hHere⟩ := exists_of_fourHex? hHex
        -- half of a pair that stands alone
        have hCode {s : Text} (hRead : readText opened fuel u' = .ok (s, r))
            (hAlone : ¬ (IsHigh n ∧ BeginsLow u')) :
            ∃ body, '\\' :: 'u' :: (l ++ u') = body ++ r ∧ IsText (codePoint n :: s) body := by
          obtain ⟨body, rfl, hBody⟩ := ih hRead
          refine ⟨'\\' :: 'u' :: (l ++ body), by simp, .code hHere ?_ hBody⟩
          rintro ⟨hHigh, l', m, rest, rfl, hRest, hLower, hLow⟩
          exact hAlone ⟨hHigh, l', m, rest ++ r, by simp, by simp [hRest], hLower, hLow⟩
        split at h
        · next low =>
          split at h
          · next hHigh =>
            split at h
            · simp [faultAt] at h
            · next m u'' hLowHex =>
              obtain ⟨hSome', l', rfl, hLower⟩ := exists_of_fourHex? hLowHex
              split at h
              · next hLow =>
                obtain ⟨s, hRead, rfl⟩ := eq_ok_of_map h
                obtain ⟨body, rfl, hBody⟩ := ih hRead
                exact ⟨'\\' :: 'u' :: (l ++ '\\' :: 'u' :: (l' ++ body)), by simp,
                  .pair hHere hHigh hLower hLow hBody⟩
              · next hNotLow =>
                obtain ⟨s, hRead, rfl⟩ := eq_ok_of_map h
                refine hCode hRead ?_
                rintro ⟨-, l'', m', rest, hText, hRest, hLower', hLow⟩
                rw [List.cons.injEq, List.cons.injEq] at hText
                rw [hText.2.2, hLower'.reads rest hRest] at hLowHex
                obtain ⟨rfl, -⟩ := Prod.mk.inj (Option.some.inj hLowHex)
                exact hNotLow hLow
          · next hNotHigh =>
            obtain ⟨s, hRead, rfl⟩ := eq_ok_of_map h
            exact hCode hRead fun hAlone => hNotHigh hAlone.1
        · next hOther =>
          obtain ⟨s, hRead, rfl⟩ := eq_ok_of_map h
          refine hCode hRead ?_
          rintro ⟨-, l', m, rest, rfl, -⟩
          exact hOther _ rfl
    · simp [faultAt] at h
    · next c u _ =>
      split at h
      · simp [faultAt] at h
      · next e hEscaped =>
        obtain ⟨s, hRead, rfl⟩ := eq_ok_of_map h
        obtain ⟨body, rfl, hBody⟩ := ih hRead
        exact ⟨'\\' :: c :: body, rfl, .escape hEscaped hBody⟩
    · next c u hQuote _ hEnd hEscape =>
      split at h
      · simp [faultAt] at h
      · next hVisible =>
        obtain ⟨s, hRead, rfl⟩ := eq_ok_of_map h
        obtain ⟨body, hBehind, hBody⟩ := ih hRead
        refine ⟨c :: body, by rw [hBehind]; rfl, .plain hQuote ?_ (Nat.not_lt.mp hVisible) hBody⟩
        intro hc
        cases u with
        | nil => exact hEnd hc rfl
        | cons d u => exact hEscape d u hc rfl

-- ---------------------------------------------------------------------------
-- Values
-- ---------------------------------------------------------------------------

/-- What is written: a value, the items of an array up to its bracket, or the fields of an
object up to its brace, which come to `all` together with those before them. -/
inductive Part where
  | value (v : Json)
  | items (vs : List Json)
  | fields (before all : List (Text × Json))

/-- The name of a field, up to its value. -/
def IsLabel (name lead : Text) : Prop :=
  ∃ body gap gap', IsText name body ∧ Spaces gap ∧ Spaces gap' ∧
    lead = '"' :: (body ++ (gap ++ ':' :: gap'))

/-- The texts of values, of items and of fields. -/
inductive Written : Part → Text → Prop where
  | text {s body : Text} (hText : IsText s body) : Written (.value (.str s)) ('"' :: body)
  | scalar {v : Json} {used : Text} (hScalar : IsScalar v used) : Written (.value v) used
  | noFields {gap : Text} (hGap : Spaces gap) :
      Written (.value (.obj [])) ('\x7b' :: (gap ++ ['\x7d']))
  | object {fields : List (Text × Json)} {gap inside : Text} (hGap : Spaces gap)
      (hInside : Written (.fields [] fields) inside) :
      Written (.value (.obj fields)) ('\x7b' :: (gap ++ inside))
  | noItems {gap : Text} (hGap : Spaces gap) : Written (.value (.arr [])) ('[' :: (gap ++ [']']))
  | array {items : List Json} {gap inside : Text} (hGap : Spaces gap)
      (hInside : Written (.items items) inside) :
      Written (.value (.arr items)) ('[' :: (gap ++ inside))
  | lastItem {v : Json} {used gap : Text} (hValue : Written (.value v) used) (hGap : Spaces gap) :
      Written (.items [v]) (used ++ (gap ++ [']']))
  | item {v : Json} {vs : List Json} {used gap gap' more : Text}
      (hValue : Written (.value v) used) (hGap : Spaces gap) (hGap' : Spaces gap')
      (hMore : Written (.items vs) more) :
      Written (.items (v :: vs)) (used ++ (gap ++ ',' :: (gap' ++ more)))
  | lastField {before : List (Text × Json)} {v : Json} {name lead used gap : Text}
      (hLabel : IsLabel name lead) (hValue : Written (.value v) used) (hGap : Spaces gap) :
      Written (.fields before (put name v before)) (lead ++ (used ++ (gap ++ ['\x7d'])))
  | field {before all : List (Text × Json)} {v : Json} {name lead used gap gap' more : Text}
      (hLabel : IsLabel name lead) (hValue : Written (.value v) used) (hGap : Spaces gap)
      (hGap' : Spaces gap') (hMore : Written (.fields (put name v before) all) more) :
      Written (.fields before all) (lead ++ (used ++ (gap ++ ',' :: (gap' ++ more))))

/-- What is read in front of a text, with enough fuel. -/
def Part.Reads (used : Text) : Part → Prop
  | value v => ∀ fuel r, 2 * used.length < fuel → Stops isScalarChar r →
      readValue fuel (used ++ r) = .ok (v, r)
  | items vs => ∀ fuel r, 2 * used.length ≤ fuel → readItems fuel (used ++ r) = .ok (vs, r)
  | fields before all => ∀ fuel r, 2 * used.length ≤ fuel →
      readFields fuel before (used ++ r) = .ok (all, r)

/-- Nothing that is written begins with a blank, nor with the end of something else. -/
theorem Written.begins {part : Part} (h : Written part used) : ∃ c u, used = c :: u ∧
    isSpace c = false ∧ c ≠ ']' ∧ c ≠ '\x7d' := by
  induction h with
  | @text s body hText => exact ⟨'"', body, rfl, by decide, by decide, by decide⟩
  | @scalar v used hScalar =>
    obtain ⟨c, u, rfl⟩ := List.exists_cons_of_ne_nil hScalar.nonempty
    have hc := hScalar.chars c (List.mem_cons_self ..)
    exact ⟨c, u, rfl, isSpace_eq_false_of_isScalarChar hc, Text.ne_of_class hc (by decide),
      Text.ne_of_class hc (by decide)⟩
  | @noFields gap hGap => exact ⟨_, _, rfl, by decide, by decide, by decide⟩
  | object hGap hInside ih => exact ⟨_, _, rfl, by decide, by decide, by decide⟩
  | noItems hGap => exact ⟨_, _, rfl, by decide, by decide, by decide⟩
  | array hGap hInside ih => exact ⟨_, _, rfl, by decide, by decide, by decide⟩
  | lastItem hValue hGap ih =>
    obtain ⟨c, u, rfl, hc⟩ := ih
    exact ⟨c, _, rfl, hc⟩
  | item hValue hGap hGap' hMore ih =>
    obtain ⟨c, u, rfl, hc⟩ := ih
    exact ⟨c, _, rfl, hc⟩
  | lastField hLabel hValue hGap ih =>
    obtain ⟨body, gap, gap', -, -, -, rfl⟩ := hLabel
    exact ⟨'"', _, rfl, by decide, by decide, by decide⟩
  | field hLabel hValue hGap hGap' hMore ih =>
    obtain ⟨body, gap, gap', -, -, -, rfl⟩ := hLabel
    exact ⟨'"', _, rfl, by decide, by decide, by decide⟩

/-- Blanks in front of what is written are skipped. -/
theorem Written.skip_append {part : Part} (h : Written part used) {gap : Text}
    (hGap : Spaces gap) (r : Text) : skip (gap ++ (used ++ r)) = used ++ r := by
  obtain ⟨c, u, rfl, hc, -⟩ := h.begins
  exact Json.skip_append hGap hc (u ++ r)

/-- Behind the name of a field its value is read. -/
theorem IsLabel.readFields_eq {name lead : Text} (h : IsLabel name lead)
    (hValue : Written (.value v) used) (before : List (Text × Json)) (fuel : Nat) (r : Text) :
    readFields (fuel + 1) before (lead ++ (used ++ r)) =
      match readValue fuel (used ++ r) with
      | .error e => .error e
      | .ok (v, r) =>
        match skip r with
        | '\x7d' :: r => .ok (put name v before, r)
        | ',' :: r => readFields fuel (put name v before) (skip r)
        | r => faultAt r := by
  obtain ⟨body, gap, gap', hName, hGap, hGap', rfl⟩ := h
  have hColon (u : Text) : skip (gap ++ ':' :: u) = ':' :: u := Json.skip_append hGap (by decide) u
  simp only [List.cons_append, List.append_assoc]
  rw [readFields, hName.reads _ _ _ (by simp; omega)]
  dsimp only
  rw [hColon]
  conv_rhs => rw [← hValue.skip_append hGap' r]
  rfl

-- ---------------------------------------------------------------------------
-- What is written is read
-- ---------------------------------------------------------------------------

namespace Part

variable {vs : List Json} {before all fields : List (Text × Json)}
  {name lead gap gap' inside more : Text}

theorem reads_text {body : Text} (hText : IsText s body) : (value (.str s)).Reads ('"' :: body) := by
  intro fuel r hFuel _
  obtain ⟨fuel, rfl⟩ := Nat.exists_eq_add_one.mpr (Nat.zero_lt_of_lt hFuel)
  rw [List.cons_append, readValue, hText.reads _ _ r (by simp; omega)]
  rfl

theorem reads_scalar (hScalar : IsScalar v used) : (value v).Reads used := by
  intro fuel r hFuel hStops
  obtain ⟨fuel, rfl⟩ := Nat.exists_eq_add_one.mpr (Nat.zero_lt_of_lt hFuel)
  obtain ⟨c, u, rfl⟩ := List.exists_cons_of_ne_nil hScalar.nonempty
  have hc := hScalar.chars c (List.mem_cons_self ..)
  have hReads := hScalar.reads r hStops
  unfold readValue
  split
  · next heq => exact absurd (List.cons.inj heq).1 (Text.ne_of_class hc (by decide))
  · next heq => exact absurd (List.cons.inj heq).1 (Text.ne_of_class hc (by decide))
  · next heq => exact absurd (List.cons.inj heq).1 (Text.ne_of_class hc (by decide))
  · exact hReads

theorem reads_noFields (hGap : Spaces gap) :
    (value (.obj [])).Reads ('\x7b' :: (gap ++ ['\x7d'])) := by
  intro fuel r hFuel _
  obtain ⟨fuel, rfl⟩ := Nat.exists_eq_add_one.mpr (Nat.zero_lt_of_lt hFuel)
  have hSkip : skip (gap ++ ['\x7d'] ++ r) = '\x7d' :: r := by
    rw [List.append_assoc]
    exact Json.skip_append hGap (by decide) r
  rw [List.cons_append, readValue, hSkip]
  rfl

theorem reads_object (hGap : Spaces gap) (hInside : Written (.fields [] fields) inside)
    (h : (Part.fields [] fields).Reads inside) :
    (value (.obj fields)).Reads ('\x7b' :: (gap ++ inside)) := by
  intro fuel r hFuel _
  obtain ⟨fuel, rfl⟩ := Nat.exists_eq_add_one.mpr (Nat.zero_lt_of_lt hFuel)
  obtain ⟨c, u, rfl, -, -, hc⟩ := hInside.begins
  have hInner : readFields fuel [] (c :: u ++ r) = .ok (fields, r) := by
    refine h fuel r ?_
    simp at hFuel ⊢
    omega
  rw [List.cons_append, readValue, List.append_assoc, hInside.skip_append hGap r]
  split
  · next heq => exact absurd (List.cons.inj heq).1 hc
  · rw [hInner]
    rfl

theorem reads_noItems (hGap : Spaces gap) : (value (.arr [])).Reads ('[' :: (gap ++ [']'])) := by
  intro fuel r hFuel _
  obtain ⟨fuel, rfl⟩ := Nat.exists_eq_add_one.mpr (Nat.zero_lt_of_lt hFuel)
  have hSkip : skip (gap ++ [']'] ++ r) = ']' :: r := by
    rw [List.append_assoc]
    exact Json.skip_append hGap (by decide) r
  rw [List.cons_append, readValue, hSkip]
  rfl

theorem reads_array (hGap : Spaces gap) (hInside : Written (.items vs) inside)
    (h : (items vs).Reads inside) : (value (.arr vs)).Reads ('[' :: (gap ++ inside)) := by
  intro fuel r hFuel _
  obtain ⟨fuel, rfl⟩ := Nat.exists_eq_add_one.mpr (Nat.zero_lt_of_lt hFuel)
  obtain ⟨c, u, rfl, -, hc, -⟩ := hInside.begins
  have hInner : readItems fuel (c :: u ++ r) = .ok (vs, r) := by
    refine h fuel r ?_
    simp at hFuel ⊢
    omega
  rw [List.cons_append, readValue, List.append_assoc, hInside.skip_append hGap r]
  split
  · next heq => exact absurd (List.cons.inj heq).1 hc
  · rw [hInner]
    rfl

theorem reads_lastItem (hGap : Spaces gap) (h : (value v).Reads used) :
    (items [v]).Reads (used ++ (gap ++ [']'])) := by
  intro fuel r hFuel
  rw [List.length_append, List.length_append, List.length_singleton] at hFuel
  obtain ⟨fuel, rfl⟩ := Nat.exists_eq_add_one.mpr (show 0 < fuel by omega)
  have hRead := h fuel (gap ++ ']' :: r) (by omega) (hGap.stops (Stops.cons (by decide) r))
  simp only [List.append_assoc, List.cons_append, List.nil_append]
  rw [readItems, hRead]
  dsimp only
  rw [Json.skip_append hGap (by decide)]
  rfl

theorem reads_item (hGap : Spaces gap) (hGap' : Spaces gap') (hMore : Written (.items vs) more)
    (h : (value v).Reads used) (hRest : (items vs).Reads more) :
    (items (v :: vs)).Reads (used ++ (gap ++ ',' :: (gap' ++ more))) := by
  intro fuel r hFuel
  simp only [List.length_append, List.length_cons] at hFuel
  obtain ⟨fuel, rfl⟩ := Nat.exists_eq_add_one.mpr (show 0 < fuel by omega)
  have hRead := h fuel (gap ++ ',' :: (gap' ++ (more ++ r))) (by omega)
    (hGap.stops (Stops.cons (by decide) _))
  simp only [List.append_assoc, List.cons_append]
  rw [readItems, hRead]
  dsimp only
  rw [Json.skip_append hGap (by decide)]
  show Except.map _ (readItems fuel (skip (gap' ++ (more ++ r)))) = _
  rw [hMore.skip_append hGap', hRest fuel r (by omega)]
  rfl

theorem reads_lastField (hLabel : IsLabel name lead) (hValue : Written (.value v) used)
    (hGap : Spaces gap) (h : (value v).Reads used) :
    (Part.fields before (put name v before)).Reads (lead ++ (used ++ (gap ++ ['\x7d']))) := by
  intro fuel r hFuel
  rw [List.length_append, List.length_append, List.length_append, List.length_singleton] at hFuel
  obtain ⟨fuel, rfl⟩ := Nat.exists_eq_add_one.mpr (show 0 < fuel by omega)
  have hRead := h fuel (gap ++ '\x7d' :: r) (by omega) (hGap.stops (Stops.cons (by decide) r))
  simp only [List.append_assoc, List.cons_append, List.nil_append]
  rw [hLabel.readFields_eq hValue, hRead]
  dsimp only
  rw [Json.skip_append hGap (by decide)]
  rfl

theorem reads_field (hLabel : IsLabel name lead) (hValue : Written (.value v) used)
    (hGap : Spaces gap) (hGap' : Spaces gap')
    (hMore : Written (.fields (put name v before) all) more) (h : (value v).Reads used)
    (hRest : (Part.fields (put name v before) all).Reads more) :
    (Part.fields before all).Reads (lead ++ (used ++ (gap ++ ',' :: (gap' ++ more)))) := by
  intro fuel r hFuel
  simp only [List.length_append, List.length_cons] at hFuel
  obtain ⟨fuel, rfl⟩ := Nat.exists_eq_add_one.mpr (show 0 < fuel by omega)
  have hRead := h fuel (gap ++ ',' :: (gap' ++ (more ++ r))) (by omega)
    (hGap.stops (Stops.cons (by decide) _))
  simp only [List.append_assoc, List.cons_append]
  rw [hLabel.readFields_eq hValue, hRead]
  dsimp only
  rw [Json.skip_append hGap (by decide)]
  show readFields fuel (put name v before) (skip (gap' ++ (more ++ r))) = _
  rw [hMore.skip_append hGap', hRest fuel r (by omega)]

end Part

/-- **What is written is read**, whatever follows it. -/
theorem Written.reads {part : Part} (h : Written part used) : part.Reads used := by
  induction h with
  | text hText => exact Part.reads_text hText
  | scalar hScalar => exact Part.reads_scalar hScalar
  | noFields hGap => exact Part.reads_noFields hGap
  | object hGap hInside ih => exact Part.reads_object hGap hInside ih
  | noItems hGap => exact Part.reads_noItems hGap
  | array hGap hInside ih => exact Part.reads_array hGap hInside ih
  | lastItem hValue hGap ih => exact Part.reads_lastItem hGap ih
  | item hValue hGap hGap' hMore ih ihMore => exact Part.reads_item hGap hGap' hMore ih ihMore
  | lastField hLabel hValue hGap ih => exact Part.reads_lastField hLabel hValue hGap ih
  | field hLabel hValue hGap hGap' hMore ih ihMore =>
    exact Part.reads_field hLabel hValue hGap hGap' hMore ih ihMore

-- ---------------------------------------------------------------------------
-- What is read is written
-- ---------------------------------------------------------------------------

/-- Blanks, and what is left behind them. -/
theorem exists_of_skip_eq {u : Text} (h : skip t = u) : ∃ gap, Spaces gap ∧ t = gap ++ u := by
  obtain ⟨gap, hGap, hText⟩ := exists_spaces t
  exact ⟨gap, hGap, h ▸ hText⟩

/-- The values that are read with some fuel are written. -/
def ValuesWritten (fuel : Nat) : Prop :=
  ∀ {t v r}, readValue fuel t = .ok (v, r) → ∃ used, t = used ++ r ∧ Written (.value v) used

/-- So are the items. -/
def ItemsWritten (fuel : Nat) : Prop :=
  ∀ {t vs r}, readItems fuel t = .ok (vs, r) → ∃ used, t = used ++ r ∧ Written (.items vs) used

/-- So are the fields. -/
def FieldsWritten (fuel : Nat) : Prop :=
  ∀ {before t all r}, readFields fuel before t = .ok (all, r) →
    ∃ used, t = used ++ r ∧ Written (.fields before all) used

theorem valuesWritten_succ (hItems : ItemsWritten fuel) (hFields : FieldsWritten fuel) :
    ValuesWritten (fuel + 1) := by
  intro t v r h
  unfold readValue at h
  split at h
  · obtain ⟨s, hText, rfl⟩ := eq_ok_of_map h
    obtain ⟨body, rfl, hBody⟩ := exists_of_readText hText
    exact ⟨'"' :: body, rfl, .text hBody⟩
  · split at h
    · next rest hClose =>
      obtain ⟨gap, hGap, rfl⟩ := exists_of_skip_eq hClose
      obtain ⟨rfl, rfl⟩ := Prod.mk.inj (Except.ok.inj h)
      exact ⟨'\x7b' :: (gap ++ ['\x7d']), by simp, .noFields hGap⟩
    · obtain ⟨fields, hInside, rfl⟩ := eq_ok_of_map h
      obtain ⟨inside, hText, hWritten⟩ := hFields hInside
      obtain ⟨gap, hGap, rfl⟩ := exists_of_skip_eq hText
      exact ⟨'\x7b' :: (gap ++ inside), by simp, .object hGap hWritten⟩
  · split at h
    · next rest hClose =>
      obtain ⟨gap, hGap, rfl⟩ := exists_of_skip_eq hClose
      obtain ⟨rfl, rfl⟩ := Prod.mk.inj (Except.ok.inj h)
      exact ⟨'[' :: (gap ++ [']']), by simp, .noItems hGap⟩
    · obtain ⟨items, hInside, rfl⟩ := eq_ok_of_map h
      obtain ⟨inside, hText, hWritten⟩ := hItems hInside
      obtain ⟨gap, hGap, rfl⟩ := exists_of_skip_eq hText
      exact ⟨'[' :: (gap ++ inside), by simp, .array hGap hWritten⟩
  · obtain ⟨used, rfl, hScalar⟩ := exists_of_readScalar h
    exact ⟨used, rfl, .scalar hScalar⟩

theorem itemsWritten_succ (hValue : ValuesWritten fuel) (hItems : ItemsWritten fuel) :
    ItemsWritten (fuel + 1) := by
  intro t vs r h
  unfold readItems at h
  split at h
  · simp at h
  · next v r₁ hRead =>
    obtain ⟨used, rfl, hWritten⟩ := hValue hRead
    split at h
    · next rest hClose =>
      obtain ⟨gap, hGap, rfl⟩ := exists_of_skip_eq hClose
      obtain ⟨rfl, rfl⟩ := Prod.mk.inj (Except.ok.inj h)
      exact ⟨used ++ (gap ++ [']']), by simp, .lastItem hWritten hGap⟩
    · next rest hComma =>
      obtain ⟨gap, hGap, rfl⟩ := exists_of_skip_eq hComma
      obtain ⟨vs, hMore, rfl⟩ := eq_ok_of_map h
      obtain ⟨more, hText, hRest⟩ := hItems hMore
      obtain ⟨gap', hGap', rfl⟩ := exists_of_skip_eq hText
      exact ⟨used ++ (gap ++ ',' :: (gap' ++ more)), by simp, .item hWritten hGap hGap' hRest⟩
    · simp [faultAt] at h

theorem fieldsWritten_succ (hValue : ValuesWritten fuel) (hFields : FieldsWritten fuel) :
    FieldsWritten (fuel + 1) := by
  intro before t all r h
  unfold readFields at h
  split at h
  · split at h
    · simp at h
    · next name r₁ hName =>
      obtain ⟨body, rfl, hBody⟩ := exists_of_readText hName
      split at h
      · next r₂ hColon =>
        obtain ⟨gap₁, hGap₁, rfl⟩ := exists_of_skip_eq hColon
        split at h
        · simp at h
        · next v r₃ hRead =>
          obtain ⟨used, hText, hWritten⟩ := hValue hRead
          obtain ⟨gap₂, hGap₂, rfl⟩ := exists_of_skip_eq hText
          have hLabel : IsLabel name ('"' :: (body ++ (gap₁ ++ ':' :: gap₂))) :=
            ⟨body, gap₁, gap₂, hBody, hGap₁, hGap₂, rfl⟩
          split at h
          · next rest hClose =>
            obtain ⟨gap, hGap, rfl⟩ := exists_of_skip_eq hClose
            obtain ⟨rfl, rfl⟩ := Prod.mk.inj (Except.ok.inj h)
            exact ⟨_, by simp, .lastField hLabel hWritten hGap⟩
          · next rest hComma =>
            obtain ⟨gap, hGap, rfl⟩ := exists_of_skip_eq hComma
            obtain ⟨more, hText, hRest⟩ := hFields h
            obtain ⟨gap', hGap', rfl⟩ := exists_of_skip_eq hText
            exact ⟨_, by simp, .field hLabel hWritten hGap hGap' hRest⟩
          · simp [faultAt] at h
      · simp [faultAt] at h
  · simp [faultAt] at h

/-- **What is read is written.** Values, items and fields are read by each other, each with
less fuel. -/
theorem exists_written (fuel : Nat) :
    ValuesWritten fuel ∧ ItemsWritten fuel ∧ FieldsWritten fuel := by
  induction fuel with
  | zero =>
    refine ⟨fun h => ?_, fun h => ?_, fun h => ?_⟩
    · simp [readValue, faultAt] at h
    · simp [readItems, faultAt] at h
    · simp [readFields, faultAt] at h
  | succ fuel ih =>
    obtain ⟨hValue, hItems, hFields⟩ := ih
    exact ⟨valuesWritten_succ hItems hFields, itemsWritten_succ hValue hItems,
      fieldsWritten_succ hValue hFields⟩

/-- **The JSON texts of a value**: its own text, with blanks around it. -/
theorem parse_eq_ok_iff : parse t = .ok v ↔ ∃ before used behind,
    t = before ++ (used ++ behind) ∧ Spaces before ∧ Spaces behind ∧ Written (.value v) used := by
  have hAll : parse t = .ok v ↔ readAll t = .ok v := by
    unfold parse
    split
    · next hRead => rw [hRead]
    · next hRead => simp [hRead]
    · next hRead => simp [hRead]
  rw [hAll]
  constructor
  · intro h
    unfold readAll at h
    split at h
    · simp at h
    · next hRead =>
      split at h
      · next hEnd =>
        obtain ⟨used, hText, hWritten⟩ := (exists_written _).1 hRead
        obtain ⟨before, hBefore, rfl⟩ := exists_of_skip_eq hText
        exact ⟨before, used, _, rfl, hBefore, List.dropWhile_eq_nil_iff.mp hEnd,
          Except.ok.inj h ▸ hWritten⟩
      · simp [faultAt] at h
  · rintro ⟨before, used, behind, rfl, hBefore, hBehind, hWritten⟩
    have hStops : Stops isScalarChar behind := by
      rw [← List.append_nil behind]
      exact hBehind.stops (.nil _)
    rw [readAll, hWritten.skip_append hBefore, hWritten.reads _ behind (by simp; omega) hStops]
    dsimp only
    rw [skip_of_spaces hBehind]

end Json

end SketchRepair
