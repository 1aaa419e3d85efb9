import SketchRepair.Proofs.Json.Overlong
import SketchRepair.Proofs.Text.Occurrence

/-!
# SketchRepair — where a number or a word ends

A number or a word is read up to the first character that is none of its own. So the same is
read whatever stands behind it, unless a number goes on there.

* `fractionAndPower_local` — fraction and exponent;
* `readNumber_local` — a number is made of its digits, and read from them alone;
* `exists_of_readScalar` — a number or a word, as the text that it takes.
-/

namespace SketchRepair

namespace Json

/-- A character of a number or a word. -/
def isScalarChar (c : Char) : Bool := c.isAlphanum || c = '-' || c = '+' || c = '.'

/-- No character of the class stands in front. -/
def Stops (q : Char → Bool) (r : Text) : Prop := ∀ c ∈ r.head?, q c = false

/-- The text of a number or a word: it is read whatever follows, unless it goes on there. -/
structure IsScalar (v : Json) (used : Text) : Prop where
  nonempty : used ≠ []
  chars : ∀ c ∈ used, isScalarChar c = true
  reads : ∀ r, Stops isScalarChar r → readScalar (used ++ r) = .ok (v, r)

variable {t r used ds : Text}

theorem isScalarChar_of_digit {c : Char} (h : isAsciiDigit c = true) : isScalarChar c = true := by
  have hAlphanum : c.isAlphanum = true := by
    rw [Char.isAlphanum, show c.isDigit = true from h, Bool.or_true]
  rw [isScalarChar, hAlphanum]
  rfl

theorem Stops.digits (h : Stops isScalarChar r) : Stops isAsciiDigit r := by
  intro c hc
  refine Bool.eq_false_iff.mpr fun hDigit => ?_
  exact Bool.false_ne_true ((h c hc).symm.trans (isScalarChar_of_digit hDigit))

theorem Stops.cons {q : Char → Bool} {c : Char} (h : q c = false) (r : Text) :
    Stops q (c :: r) := by
  intro d hd
  rw [List.head?_cons, Option.mem_some_iff] at hd
  exact hd ▸ h

theorem Stops.nil (q : Char → Bool) : Stops q [] := by
  intro c hc
  simp at hc

theorem takeWhile_append {q : Char → Bool} (hUsed : ∀ c ∈ used, q c = true) (h : Stops q r) :
    (used ++ r).takeWhile q = used := by
  rw [List.takeWhile_append_of_pos hUsed]
  cases r with
  | nil => rw [List.takeWhile_nil, List.append_nil]
  | cons c r => rw [List.takeWhile_cons_of_neg (by simp [h c rfl]), List.append_nil]

/-- A run of digits, and what stands behind it. -/
theorem exists_of_takeWhile (t : Text) : ∃ r, t = t.takeWhile isAsciiDigit ++ r ∧
    t.drop (t.takeWhile isAsciiDigit).length = r ∧ Stops isAsciiDigit r ∧
    ∀ c ∈ t.takeWhile isAsciiDigit, isAsciiDigit c = true := by
  have hText := Text.takeWhile_append_drop isAsciiDigit t
  refine ⟨_, hText.symm, rfl, ?_, List.all_eq_true.mp List.all_takeWhile⟩
  have hDrop : t.drop (t.takeWhile isAsciiDigit).length = t.dropWhile isAsciiDigit :=
    List.append_cancel_left (hText.trans List.takeWhile_append_dropWhile.symm)
  intro c hc
  have hFirst := List.head?_dropWhile_not isAsciiDigit t
  rw [hDrop] at hc
  rw [Option.mem_def.mp hc] at hFirst
  simpa using hFirst

-- ---------------------------------------------------------------------------
-- Numbers
-- ---------------------------------------------------------------------------

theorem fraction?_local (h : fraction? t = some (ds, r)) :
    t = '.' :: ds ++ r ∧ (∀ c ∈ ds, isAsciiDigit c = true) ∧
      ∀ u, Stops isAsciiDigit u → fraction? ('.' :: ds ++ u) = some (ds, u) := by
  unfold fraction? at h
  split at h
  · next t =>
    obtain ⟨behind, hText, hDrop, -, hDigits⟩ := exists_of_takeWhile t
    dsimp only at h
    split at h
    · simp at h
    · next hSome =>
      obtain ⟨rfl, rfl⟩ := Prod.mk.inj (Option.some.inj h)
      refine ⟨by rw [hDrop, List.cons_append, ← hText], hDigits, fun u hu => ?_⟩
      simp only [fraction?, List.cons_append, takeWhile_append hDigits hu]
      rw [if_neg hSome, List.drop_left]
  · simp at h

theorem fraction?_of_ne {c : Char} (h : c ≠ '.') (t : Text) : fraction? (c :: t) = none := by
  unfold fraction?
  split
  · next heq => exact absurd (List.cons.inj heq).1 h
  · rfl

theorem fraction?_of_stops (h : Stops isScalarChar r) : fraction? r = none := by
  cases r with
  | nil => rfl
  | cons c r => exact fraction?_of_ne (fun hc => absurd (h c rfl) (by rw [hc]; decide)) r

/-- A sign that is read is one character, or none. -/
theorem exists_of_signed (t : Text) : ∃ sign, t = sign ++ (signed t).2 ∧
    (∀ c ∈ sign, isScalarChar c = true) ∧
      ∀ ds u, ds ≠ [] → (∀ c ∈ ds, isAsciiDigit c = true) →
        signed (sign ++ (ds ++ u)) = ((signed t).1, ds ++ u) := by
  unfold signed
  split
  · exact ⟨['-'], rfl, List.all_eq_true.mp rfl, fun _ _ _ _ => rfl⟩
  · exact ⟨['+'], rfl, List.all_eq_true.mp rfl, fun _ _ _ _ => rfl⟩
  · refine ⟨[], rfl, List.forall_mem_nil _, fun ds u hSome hDigits => ?_⟩
    obtain ⟨d, ds, rfl⟩ := List.exists_cons_of_ne_nil hSome
    have hd := hDigits d (List.mem_cons_self ..)
    rw [List.nil_append, List.cons_append]
    split
    · next heq => exact absurd hd (by rw [(List.cons.inj heq).1]; decide)
    · next heq => exact absurd hd (by rw [(List.cons.inj heq).1]; decide)
    · next heq => rfl

theorem exponent?_local {n : Int} (h : exponent? t = some (n, r)) : ∃ e used,
    t = e :: used ++ r ∧ (e = 'e' ∨ e = 'E') ∧ (∀ c ∈ used, isScalarChar c = true) ∧
      ∀ u, Stops isAsciiDigit u → exponent? (e :: used ++ u) = some (n, u) := by
  cases t with
  | nil => simp [exponent?] at h
  | cons e t =>
    rw [exponent?_cons] at h
    split at h
    · next hLetter =>
      dsimp only at h
      split at h
      · simp at h
      · next hSome =>
        obtain ⟨rfl, rfl⟩ := Prod.mk.inj (Option.some.inj h)
        obtain ⟨behind, hText, hDrop, -, hDigits⟩ := exists_of_takeWhile (signed t).2
        obtain ⟨sign, hSign, hSignChars, hSigned⟩ := exists_of_signed t
        refine ⟨e, sign ++ (signed t).2.takeWhile isAsciiDigit, ?_, hLetter, ?_, fun u hu => ?_⟩
        · rw [hDrop, List.cons_append, List.append_assoc, ← hText, ← hSign]
        · intro c hc
          rcases List.mem_append.mp hc with hc | hc
          · exact hSignChars c hc
          · exact isScalarChar_of_digit (hDigits c hc)
        · have hAgain := hSigned _ u (by simpa using hSome) hDigits
          rw [List.cons_append, List.append_assoc, exponent?_cons, if_pos hLetter, hAgain]
          dsimp only
          rw [takeWhile_append hDigits hu, if_neg hSome, List.drop_left]
    · simp at h

theorem exponent?_of_stops (h : Stops isScalarChar r) : exponent? r = none := by
  cases r with
  | nil => rfl
  | cons c r =>
    rw [exponent?_cons, if_neg]
    rintro (rfl | rfl) <;> exact absurd (h _ rfl) (by decide)

/-- Fraction and exponent are read from their own characters. -/
theorem fractionAndPower_local (t : Text) : ∃ used, t = used ++ (fractionAndPower t).2.2 ∧
    (∀ c ∈ used, isScalarChar c = true) ∧
      (∀ u, Stops isScalarChar u → Stops isAsciiDigit (used ++ u)) ∧
      ∀ u, Stops isScalarChar u →
        fractionAndPower (used ++ u) =
          ((fractionAndPower t).1, (fractionAndPower t).2.1, u) := by
  -- the exponent, if there is one, is no fraction and begins with no digit
  have hPower (t : Text) : ∃ used, t = used ++ ((exponent? t).getD (0, t)).2 ∧
      (∀ c ∈ used, isScalarChar c = true) ∧
      ∀ u, Stops isScalarChar u → Stops isAsciiDigit (used ++ u) ∧
        (fraction? (used ++ u) = none) ∧
        (exponent? (used ++ u)).getD (0, used ++ u) = (((exponent? t).getD (0, t)).1, u) := by
    cases hExponent : exponent? t with
    | none =>
      refine ⟨[], rfl, List.forall_mem_nil _, fun u hu => ⟨hu.digits, fraction?_of_stops hu, ?_⟩⟩
      rw [List.nil_append, exponent?_of_stops hu]
      rfl
    | some found =>
      obtain ⟨n, r⟩ := found
      obtain ⟨e, used, hText, hLetter, hChars, hReads⟩ := exponent?_local hExponent
      refine ⟨e :: used, hText, List.forall_mem_cons.mpr ⟨?_, hChars⟩, fun u hu => ⟨?_, ?_, ?_⟩⟩
      · rcases hLetter with rfl | rfl <;> decide
      · exact Stops.cons (by rcases hLetter with rfl | rfl <;> decide) _
      · exact fraction?_of_ne (by rcases hLetter with rfl | rfl <;> decide) _
      · rw [hReads u hu.digits]
        rfl
  cases hFraction : fraction? t with
  | none =>
    obtain ⟨used, hText, hChars, hReads⟩ := hPower t
    refine ⟨used, ?_, hChars, fun u hu => (hReads u hu).1, fun u hu => ?_⟩
    · simpa only [fractionAndPower, hFraction, Option.getD_none] using hText
    · obtain ⟨-, hNone, hSame⟩ := hReads u hu
      simp only [fractionAndPower, hFraction, hNone, Option.getD_none, hSame]
  | some found =>
    obtain ⟨ds, r⟩ := found
    obtain ⟨hText, hDigits, hFractionReads⟩ := fraction?_local hFraction
    obtain ⟨used, hRest, hChars, hReads⟩ := hPower r
    refine ⟨'.' :: ds ++ used, ?_, ?_, fun u hu => Stops.cons (by decide) _, fun u hu => ?_⟩
    · simp only [fractionAndPower, hFraction, Option.getD_some]
      rw [List.append_assoc, ← hRest, ← hText]
    · intro c hc
      rcases List.mem_append.mp hc with hc | hc
      · rcases List.mem_cons.mp hc with rfl | hc
        · decide
        · exact isScalarChar_of_digit (hDigits c hc)
      · exact hChars c hc
    · obtain ⟨hStops, -, hSame⟩ := hReads u hu
      have hAgain := hFractionReads (used ++ u) hStops
      rw [List.append_assoc]
      simp only [fractionAndPower, hFraction, hAgain, Option.getD_some, hSame]

/-- The digits that a number begins with are the same before any other text. -/
theorem leadingDigits_append (hSome : leadingDigits t ≠ []) (hStops : Stops isAsciiDigit r) :
    leadingDigits (leadingDigits t ++ r) = leadingDigits t := by
  obtain ⟨-, hDigits⟩ := leadingDigits_prefix t
  by_cases hZero : ∃ u, t = '0' :: u
  · obtain ⟨u, rfl⟩ := hZero
    rfl
  · have hRun : leadingDigits t = t.takeWhile isAsciiDigit := by
      unfold leadingDigits
      split
      · next u => exact absurd ⟨u, rfl⟩ hZero
      · rfl
    obtain ⟨d, ds, hFirst⟩ := List.exists_cons_of_ne_nil hSome
    have hNotZero : ¬ ∃ u, d :: ds ++ r = '0' :: u := by
      rintro ⟨u, hu⟩
      obtain ⟨⟨w, hw⟩, -⟩ := leadingDigits_prefix t
      rw [hFirst, (List.cons.inj hu).1] at hw
      exact hZero ⟨ds ++ w, hw.symm⟩
    rw [hFirst]
    unfold leadingDigits
    split
    · next u hu => exact absurd ⟨u, hu⟩ hNotZero
    · exact takeWhile_append (hFirst ▸ hDigits) hStops

/-- The number that is written with these digits. -/
def numberOf? (negative whole : Bool) (ds places : Text) (power : Int) : Option Number :=
  if whole then
    match Decimal.readDigits (ds.map asciiDigit) with
    | .ok n => some (.whole (if negative then -(n : Int) else n))
    | .error _ => none
  else
    some (.real (Decimal.nearest negative ((ds ++ places).map asciiDigit) (power - places.length)))

/-- What a number is, and what is left behind it. -/
theorem readDigits_eq_ok_iff {negative : Bool} {n : Number} :
    readDigits negative t = some (.ok (n, r)) ↔ leadingDigits t ≠ [] ∧
      ∃ behind, t = leadingDigits t ++ behind ∧ r = (fractionAndPower behind).2.2 ∧
        numberOf? negative (decide (r.length = behind.length)) (leadingDigits t)
          (fractionAndPower behind).1 (fractionAndPower behind).2.1 = some n := by
  obtain ⟨hPrefix, -⟩ := leadingDigits_prefix t
  have hText := List.prefix_iff_eq_append.mp hPrefix
  have hUnique (behind : Text) : t = leadingDigits t ++ behind ↔
      behind = t.drop (leadingDigits t).length := by
    constructor
    · intro h
      exact List.append_cancel_left (h.symm.trans hText.symm)
    · rintro rfl
      exact hText.symm
  simp only [hUnique, exists_eq_left]
  rw [readDigits_eq]
  generalize t.drop (leadingDigits t).length = behind
  split
  · next hNone =>
    rw [List.isEmpty_iff.mp hNone]
    simp
  · next hSome =>
    have hRest := (fractionAndPower_suffix behind).eq_of_length
    rw [Option.some.injEq, and_iff_right (mt List.isEmpty_iff.mpr hSome)]
    dsimp only
    unfold numberOf?
    split
    · next hLength =>
      rw [hRest hLength]
      cases Decimal.readDigits ((leadingDigits t).map asciiDigit) with
      | ok m =>
        rw [Except.ok.injEq, Prod.mk.injEq]
        constructor
        · rintro ⟨rfl, rfl⟩
          simp
        · rintro ⟨rfl, hNumber⟩
          simpa using hNumber
      | error e =>
        constructor
        · intro h
          cases e <;> simp [faultAt] at h
        · rintro ⟨rfl, hNumber⟩
          simp at hNumber
    · next hLength =>
      rw [Except.ok.injEq, Prod.mk.injEq]
      constructor
      · rintro ⟨rfl, rfl⟩
        simp [hLength]
      · rintro ⟨rfl, hNumber⟩
        simpa [hLength] using hNumber

/-- A number is read from its own characters. -/
theorem readDigits_local {negative : Bool} {n : Number}
    (h : readDigits negative t = some (.ok (n, r))) : ∃ d used, t = d :: used ++ r ∧
      isAsciiDigit d = true ∧ (∀ c ∈ used, isScalarChar c = true) ∧
      ∀ u, Stops isScalarChar u → readDigits negative (d :: used ++ u) = some (.ok (n, u)) := by
  obtain ⟨-, hDigits⟩ := leadingDigits_prefix t
  obtain ⟨hSome, behind, hText, rfl, hNumber⟩ := readDigits_eq_ok_iff.mp h
  obtain ⟨used, hUsed, hChars, hStops, hReads⟩ := fractionAndPower_local behind
  obtain ⟨d, ds, hFirst⟩ := List.exists_cons_of_ne_nil hSome
  refine ⟨d, ds ++ used, ?_, hDigits d (hFirst ▸ List.mem_cons_self ..), ?_, fun u hu => ?_⟩
  · rw [← List.cons_append, ← hFirst, List.append_assoc, ← hUsed, ← hText]
  · intro c hc
    rcases List.mem_append.mp hc with hc | hc
    · exact isScalarChar_of_digit (hDigits c (hFirst ▸ List.mem_cons_of_mem d hc))
    · exact hChars c hc
  · have hAgain : leadingDigits (leadingDigits t ++ (used ++ u)) = leadingDigits t :=
      leadingDigits_append hSome (hStops u hu)
    -- nothing but the number itself decides whether it is whole
    have hWhole : decide (u.length = (used ++ u).length) =
        decide ((fractionAndPower behind).2.2.length = behind.length) := by
      have hLength := congrArg List.length hUsed
      rw [List.length_append] at hLength ⊢
      rw [decide_eq_decide]
      omega
    rw [← List.cons_append, ← hFirst, List.append_assoc, readDigits_eq_ok_iff, hAgain]
    refine ⟨hSome, used ++ u, rfl, by rw [hReads u hu], ?_⟩
    rw [hReads u hu, hWhole]
    exact hNumber

/-- A number begins with a digit, or with a minus sign and a digit. -/
def BeginsNumber (t : Text) : Prop :=
  ∃ d u, isAsciiDigit d = true ∧ (t = d :: u ∨ t = '-' :: d :: u)

/-- A number that is read takes its own characters. -/
theorem readNumber_local {n : Number} (h : readNumber t = .ok (n, r)) : ∃ used, t = used ++ r ∧
    used ≠ [] ∧ (∀ c ∈ used, isScalarChar c = true) ∧
      ∀ u, Stops isScalarChar u →
        BeginsNumber (used ++ u) ∧ readNumber (used ++ u) = .ok (n, u) := by
  have hSome {reading : Option (Reading Number)} (h : reading.getD (faultAt t) = .ok (n, r)) :
      reading = some (.ok (n, r)) := by
    cases reading with
    | none => simp [faultAt] at h
    | some found => exact congrArg some h
  unfold readNumber at h
  dsimp only at h
  split at h
  · next t =>
    obtain ⟨d, used, rfl, hDigit, hChars, hReads⟩ := readDigits_local (hSome h)
    refine ⟨'-' :: d :: used, rfl, List.cons_ne_nil _ _, ?_, fun u hu => ⟨?_, ?_⟩⟩
    · exact List.forall_mem_cons.mpr
        ⟨by decide, List.forall_mem_cons.mpr ⟨isScalarChar_of_digit hDigit, hChars⟩⟩
    · exact ⟨d, used ++ u, hDigit, .inr rfl⟩
    · show (readDigits true (d :: used ++ u)).getD _ = _
      rw [hReads u hu, Option.getD_some]
  · obtain ⟨d, used, rfl, hDigit, hChars, hReads⟩ := readDigits_local (hSome h)
    refine ⟨d :: used, rfl, List.cons_ne_nil _ _, ?_, fun u hu => ⟨?_, ?_⟩⟩
    · exact List.forall_mem_cons.mpr ⟨isScalarChar_of_digit hDigit, hChars⟩
    · exact ⟨d, used ++ u, hDigit, .inl rfl⟩
    · unfold readNumber
      dsimp only
      split
      · next heq => exact absurd hDigit (by rw [(List.cons.inj heq).1]; decide)
      · rw [hReads u hu, Option.getD_some]

-- ---------------------------------------------------------------------------
-- Words
-- ---------------------------------------------------------------------------

/-- A word is read as what it stands for, and no number begins with it. -/
theorem isScalar_of_mem_words : ∀ entry ∈ words, IsScalar entry.2 entry.1 := by
  simp only [words, List.forall_mem_cons]
  refine ⟨?_, ?_, ?_, ?_, ?_, ?_, List.forall_mem_nil _⟩
  all_goals exact ⟨by decide, List.all_eq_true.mp rfl, fun _ _ => rfl⟩

/-- No word stands where a number begins. -/
theorem after?_of_beginsNumber (h : BeginsNumber t) :
    ∀ entry ∈ words, Text.after? entry.1 t = none := by
  have hSecond : ∀ entry ∈ words, ∃ a b w, entry.1 = a :: b :: w ∧ isAsciiDigit a = false ∧
      isAsciiDigit b = false := by
    simp only [words, List.forall_mem_cons]
    refine ⟨?_, ?_, ?_, ?_, ?_, ?_, List.forall_mem_nil _⟩
    all_goals exact ⟨_, _, _, rfl, by decide, by decide⟩
  intro entry hEntry
  obtain ⟨a, b, w, hWord, ha, hb⟩ := hSecond entry hEntry
  obtain ⟨d, u, hd, rfl | rfl⟩ := h
  · rw [hWord, Text.after?, if_neg (Text.ne_of_class hd ha).symm]
  · rw [hWord, Text.after?]
    split
    · rw [Text.after?, if_neg (Text.ne_of_class hd hb).symm]
    · rfl

/-- A word or a number, as the text that it takes. -/
theorem exists_of_readScalar {v : Json} (h : readScalar t = .ok (v, r)) :
    ∃ used, t = used ++ r ∧ IsScalar v used := by
  unfold readScalar at h
  split at h
  · next reading hWord =>
    obtain ⟨entry, hEntry, hAfter⟩ := List.exists_of_findSome?_eq_some hWord
    obtain ⟨rest, hRest, rfl⟩ := Option.map_eq_some_iff.mp hAfter
    obtain ⟨rfl, rfl⟩ := Prod.mk.inj (Except.ok.inj h)
    exact ⟨entry.1, Text.after?_eq_some.mp hRest, isScalar_of_mem_words entry hEntry⟩
  · cases hNumber : readNumber t with
    | error e => simp [hNumber, Except.map] at h
    | ok found =>
      obtain ⟨n, rest⟩ := found
      rw [hNumber, Except.map, Except.ok.injEq, Prod.mk.injEq] at h
      obtain ⟨rfl, rfl⟩ := h
      obtain ⟨used, hText, hSome, hChars, hReads⟩ := readNumber_local hNumber
      refine ⟨used, hText, hSome, hChars, fun u hu => ?_⟩
      obtain ⟨hBegins, hAgain⟩ := hReads u hu
      have hWord := after?_of_beginsNumber hBegins
      rw [readScalar, List.findSome?_eq_none_iff.mpr fun entry hEntry => ?_, hAgain]
      · rfl
      · dsimp only
        rw [hWord entry hEntry, Option.map_none]

end Json

end SketchRepair
