import Mathlib.Data.List.Forall2
import SketchRepair.Proofs.Page.Fault

/-!
# SketchRepair — each undefined variable once

A name that is not defined is reported again and again: as an uncaught error, which has a stack
and so a line, once more as console output, which has none, and all that for every frame that is
drawn. Two reports are of one fault if they agree in the name and the line. They are compared
by one text that is made of the two, though. That does no harm, because no name holds the colon
that is put behind it: the text can be cut there again.

What is left of the events is described by `Firsts`, a derivation with one rule for each thing
that an event can be: silent, a report of something known, and the first report of its fault.

* `Event.IsReadable.exists_line` — short numbers are read, wherever they stand;
* `key_eq_key_iff` — a key is as good as the name and the line;
* `exists_firsts`, `Firsts.distinctFrom` — what the loop over the events does;
* `Firsts.pair_nodup`, `Firsts.exists_places`, `Firsts.covers`, `Firsts.append` — and what
  follows from that;
* `undefinedVariables_firsts` — **the undefined variables of a page run**.
-/

namespace SketchRepair

namespace Page

variable {events more : List Event} {seen faults : List UndefinedVariable} {e : Event}
  {u v w : UndefinedVariable} {s t digits rest : Text} {i : Nat} {places : List Nat}

-- ---------------------------------------------------------------------------
-- Lines
-- ---------------------------------------------------------------------------

/-- A run of digits in a text. -/
structure IsRun (digits t : Text) : Prop where
  isInfix : digits <:+: t
  digit : ∀ c ∈ digits, isDecimalDigit c = true

/-- No run of digits in the text is too long for a number. -/
def ShortRuns (t : Text) : Prop := ∀ digits, IsRun digits t → digits.length ≤ Decimal.digitLimit

theorem IsRun.of_suffix (h : IsRun digits s) (hs : s <:+ t) : IsRun digits t :=
  ⟨h.isInfix.trans hs.isInfix, h.digit⟩

theorem shortRuns_of_length_le (h : t.length ≤ Decimal.digitLimit) : ShortRuns t :=
  fun _ hRun => hRun.isInfix.length_le.trans h

theorem digitsHere_run (h : digitsHere t = some (digits, rest)) : IsRun digits t := by
  unfold digitsHere at h
  dsimp only at h
  split at h
  · simp at h
  · obtain ⟨rfl, -⟩ := Prod.mk.inj (Option.some.inj h)
    exact ⟨(List.takeWhile_prefix _).isInfix, fun c hc => List.mem_takeWhile_imp hc⟩

theorem placeHere_run (h : placeHere t = some digits) : IsRun digits t := by
  unfold placeHere at h
  split at h
  · next t =>
    split at h
    · next line rest hLine =>
      obtain ⟨-, -, rfl⟩ := Option.map_eq_some_iff.mp h
      exact (digitsHere_run hLine).of_suffix (List.suffix_cons ..)
    · simp at h
  · simp at h

theorem lineWordHere_run (h : lineWordHere t = some digits) : IsRun digits t := by
  unfold lineWordHere at h
  split at h
  · simp at h
  · next r hWord =>
    obtain ⟨word, rfl, -⟩ := Text.afterFold?_eq_some_iff.mp hWord
    dsimp only at h
    split at h
    · obtain ⟨⟨run, rest⟩, hRun, rfl⟩ := Option.map_eq_some_iff.mp h
      exact (digitsHere_run hRun).of_suffix
        ((List.dropWhile_suffix _).trans (List.suffix_append word r))
    · simp at h

/-- What is found in a text of short runs is read, if it is a run. -/
theorem exists_lineOfDigits {m : Text → Option Text}
    (hRun : ∀ {t digits}, m t = some digits → IsRun digits t) (ht : ShortRuns t)
    (h : Text.find? m t = some digits) : ∃ n, lineOfDigits digits = .ok n := by
  obtain ⟨⟨before, run⟩, hSearch, rfl⟩ := Option.map_eq_some_iff.mp h
  obtain ⟨here, rfl, hHere⟩ := Text.search_eq_some hSearch
  have hShort : (run.filterMap digitValue?).length ≤ Decimal.digitLimit :=
    (List.length_filterMap_le ..).trans
      (ht run ((hRun hHere).of_suffix (List.suffix_append before here)))
  exact ⟨_, if_pos hShort⟩

/-- What an event says holds no number that is too long. -/
structure Event.IsReadable (e : Event) : Prop where
  message : ShortRuns e.message
  stack : ∀ s, e.stack = some s → ShortRuns s

/-- Whatever line such an event names, it is read. -/
theorem Event.IsReadable.exists_line (h : e.IsReadable) : ∃ line, e.line? = .ok line := by
  unfold Event.line? lineNumber?
  split
  · next digits hFound =>
    suffices hRead : ∃ n, lineOfDigits digits = .ok n by
      obtain ⟨n, hn⟩ := hRead
      exact ⟨some n, by rw [hn]; rfl⟩
    rw [Option.orElse_eq_or, Option.or_eq_some_iff] at hFound
    rcases hFound with hStack | ⟨-, hMessage⟩
    · obtain ⟨s, hs, hPlace⟩ := Option.bind_eq_some_iff.mp hStack
      split at hs
      · exact exists_lineOfDigits placeHere_run (h.stack s hs) hPlace
      · simp at hs
    · exact exists_lineOfDigits lineWordHere_run h.message hMessage
  · exact ⟨none, rfl⟩

-- ---------------------------------------------------------------------------
-- Keys
-- ---------------------------------------------------------------------------

/-- What an undefined variable is told from others by: its name, and its line or zero. -/
def UndefinedVariable.pair (v : UndefinedVariable) : Text × Nat := (v.name, v.line.getD 0)

/-- The event is a report of the undefined variable. -/
structure Event.Reports (e : Event) (v : UndefinedVariable) : Prop where
  isReferenceError : e.isReferenceError = true
  name : undefinedName? e.message = some v.name
  line : e.line? = .ok v.line
  message : v.message = e.message

/-- The event is a report of nothing. -/
def Event.Silent (e : Event) : Prop :=
  e.isReferenceError = true → undefinedName? e.message = none

theorem Event.Reports.unique (hv : e.Reports v) (hw : e.Reports w) : v = w := by
  obtain ⟨name, line, message⟩ := v
  obtain ⟨name', line', message'⟩ := w
  obtain rfl : name = name' := Option.some.inj (hv.name.symm.trans hw.name)
  obtain rfl : line = line' := Except.ok.inj (hv.line.symm.trans hw.line)
  obtain rfl : message = message' := hv.message.trans hw.message.symm
  rfl

theorem Event.Reports.undefinedVariable? (h : e.Reports v) :
    e.undefinedVariable? = .ok (some v) := by
  obtain ⟨-, hName, hLine, hMessage⟩ := h
  unfold Event.undefinedVariable?
  rw [hName, hLine, ← hMessage]
  rfl

theorem Event.Silent.not_reports (h : e.Silent) : ¬ e.Reports v := by
  intro hv
  have hName : some v.name = none := hv.name.symm.trans (h hv.isReferenceError)
  simp at hName

theorem colon_not_mem_name {message : Text} (h : undefinedName? message = some v.name) :
    ':' ∉ v.name :=
  (isName_of_undefinedName? h).not_mem (by decide)

/-- A key begins with the name, and the colon behind it is the first one. -/
theorem upTo?_key (h : ':' ∉ v.name) :
    Text.upTo? ':' v.key = some (v.name, Decimal.ofNat (v.line.getD 0)) :=
  Text.upTo?_eq_some.mpr ⟨List.append_assoc .., h⟩

theorem ofNat_injective : Function.Injective Decimal.ofNat := fun m n h =>
  calc m = Nat.ofDigitChars 10 (Decimal.ofNat m) 0 := Nat.ofDigitChars_ten_toDigits.symm
    _ = Nat.ofDigitChars 10 (Decimal.ofNat n) 0 := by rw [h]
    _ = n := Nat.ofDigitChars_ten_toDigits

/-- A key tells as much as the name and the line. -/
theorem key_eq_key_iff (hv : ':' ∉ v.name) (hw : ':' ∉ w.name) :
    v.key = w.key ↔ v.pair = w.pair := by
  constructor
  · intro h
    have hCut := (upTo?_key hv).symm.trans ((congrArg _ h).trans (upTo?_key hw))
    obtain ⟨hName, hLine⟩ := Prod.mk.inj (Option.some.inj hCut)
    exact Prod.ext hName (ofNat_injective hLine)
  · intro h
    obtain ⟨hName, hLine⟩ := Prod.mk.inj h
    rw [UndefinedVariable.key, hName, hLine]
    rfl

-- ---------------------------------------------------------------------------
-- The loop over the events
-- ---------------------------------------------------------------------------

/-- The undefined variables that the events report for the first time, where those `seen` have
been reported before. -/
inductive Firsts : List UndefinedVariable → List Event → List UndefinedVariable → Prop where
  | nil {seen : List UndefinedVariable} : Firsts seen [] []
  | silent {seen faults : List UndefinedVariable} {e : Event} {es : List Event}
      (hSilent : e.Silent) (hRest : Firsts seen es faults) : Firsts seen (e :: es) faults
  | known {seen faults : List UndefinedVariable} {e : Event} {es : List Event}
      {v : UndefinedVariable} (hReports : e.Reports v)
      (hKnown : v.pair ∈ seen.map UndefinedVariable.pair) (hRest : Firsts seen es faults) :
      Firsts seen (e :: es) faults
  | first {seen faults : List UndefinedVariable} {e : Event} {es : List Event}
      {v : UndefinedVariable} (hReports : e.Reports v)
      (hNew : v.pair ∉ seen.map UndefinedVariable.pair) (hRest : Firsts (v :: seen) es faults) :
      Firsts seen (e :: es) (v :: faults)

theorem Event.IsReadable.silent_or_reports (h : e.IsReadable) : e.Silent ∨ ∃ v, e.Reports v := by
  by_cases hError : e.isReferenceError = true
  · cases hName : undefinedName? e.message with
    | none => exact .inl fun _ => hName
    | some name =>
      obtain ⟨line, hLine⟩ := h.exists_line
      exact .inr ⟨⟨name, line, e.message⟩, hError, hName, hLine, rfl⟩
  · exact .inl fun h => absurd h hError

/-- Readable events have first reports. -/
theorem exists_firsts : ∀ {events : List Event}, (∀ e ∈ events, e.IsReadable) →
    ∀ seen, ∃ faults, Firsts seen events faults := by
  intro events
  induction events with
  | nil => exact fun _ seen => ⟨[], .nil⟩
  | cons e es ih =>
    intro h seen
    obtain ⟨he, hes⟩ := List.forall_mem_cons.mp h
    rcases he.silent_or_reports with hSilent | ⟨v, hReports⟩
    · obtain ⟨faults, hRest⟩ := ih hes seen
      exact ⟨faults, .silent hSilent hRest⟩
    · by_cases hKnown : v.pair ∈ seen.map UndefinedVariable.pair
      · obtain ⟨faults, hRest⟩ := ih hes seen
        exact ⟨faults, .known hReports hKnown hRest⟩
      · obtain ⟨faults, hRest⟩ := ih hes (v :: seen)
        exact ⟨v :: faults, .first hReports hKnown hRest⟩

/-- Looking for a key among those seen is looking for the name and the line. -/
theorem contains_key_iff (hSeen : ∀ u ∈ seen, ':' ∉ u.name) (hv : ':' ∉ v.name) :
    (seen.map UndefinedVariable.key).contains v.key = true ↔
      v.pair ∈ seen.map UndefinedVariable.pair := by
  rw [List.contains_iff_mem, List.mem_map, List.mem_map]
  exact exists_congr fun u => and_congr_right fun hu => key_eq_key_iff (hSeen u hu) hv

/-- The loop finds the first reports, and compares the keys only. -/
theorem Firsts.distinctFrom (h : Firsts seen events faults) (hSeen : ∀ u ∈ seen, ':' ∉ u.name) :
    Page.distinctFrom (seen.map UndefinedVariable.key) (events.filter (·.isReferenceError)) =
      .ok faults := by
  induction h with
  | nil => rfl
  | @silent seen faults e es hSilent hRest ih =>
    by_cases hError : e.isReferenceError = true
    · rw [List.filter_cons_of_pos hError, Page.distinctFrom, Event.undefinedVariable?,
        hSilent hError]
      exact ih hSeen
    · rw [List.filter_cons_of_neg hError]
      exact ih hSeen
  | @known seen faults e es v hReports hKnown hRest ih =>
    have hSame := (contains_key_iff hSeen (colon_not_mem_name hReports.name)).mpr hKnown
    rw [List.filter_cons_of_pos hReports.isReferenceError, Page.distinctFrom,
      hReports.undefinedVariable?]
    dsimp only
    rw [if_pos hSame]
    exact ih hSeen
  | @first seen faults e es v hReports hNew hRest ih =>
    have hv := colon_not_mem_name hReports.name
    have hOther := mt (contains_key_iff hSeen hv).mp hNew
    have hLater := ih (List.forall_mem_cons.mpr ⟨hv, hSeen⟩)
    rw [List.filter_cons_of_pos hReports.isReferenceError, Page.distinctFrom,
      hReports.undefinedVariable?]
    dsimp only
    rw [if_neg hOther, ← List.map_cons, hLater]
    rfl

theorem Firsts.undefinedVariables (h : Firsts [] events faults) :
    Page.undefinedVariables events = .ok faults :=
  h.distinctFrom (List.forall_mem_nil _)

-- ---------------------------------------------------------------------------
-- First reports
-- ---------------------------------------------------------------------------

theorem Firsts.pair_not_mem (h : Firsts seen events faults) :
    ∀ v ∈ faults, v.pair ∉ seen.map UndefinedVariable.pair := by
  induction h with
  | nil => exact List.forall_mem_nil _
  | silent _ _ ih => exact ih
  | known _ _ _ ih => exact ih
  | first _ hNew _ ih =>
    refine List.forall_mem_cons.mpr ⟨hNew, fun v hv hMem => ?_⟩
    exact ih v hv (List.mem_cons_of_mem _ hMem)

theorem Firsts.pair_nodup (h : Firsts seen events faults) :
    (faults.map UndefinedVariable.pair).Nodup := by
  induction h with
  | nil => exact List.nodup_nil
  | silent _ _ ih => exact ih
  | known _ _ _ ih => exact ih
  | first _ _ hRest ih =>
    refine List.nodup_cons.mpr ⟨fun hMem => ?_, ih⟩
    obtain ⟨v, hv, hSame⟩ := List.mem_map.mp hMem
    exact hRest.pair_not_mem v hv (List.mem_map.mpr ⟨_, List.mem_cons_self .., hSame.symm⟩)

/-- Whatever is reported has been seen before or is found. -/
theorem Firsts.covers (h : Firsts seen events faults) : ∀ e ∈ events, ∀ w, e.Reports w →
    w.pair ∈ seen.map UndefinedVariable.pair ∨ ∃ v ∈ faults, v.pair = w.pair := by
  induction h with
  | nil => exact List.forall_mem_nil _
  | silent hSilent _ ih =>
    exact List.forall_mem_cons.mpr ⟨fun w hw => absurd hw hSilent.not_reports, ih⟩
  | known hReports hKnown _ ih =>
    refine List.forall_mem_cons.mpr ⟨fun w hw => .inl ?_, ih⟩
    rw [hw.unique hReports]
    exact hKnown
  | @first seen faults e es v hReports hNew hRest ih =>
    refine List.forall_mem_cons.mpr ⟨fun w hw => .inr ?_, fun d hd w hw => ?_⟩
    · exact ⟨v, List.mem_cons_self .., by rw [hw.unique hReports]⟩
    · rcases ih d hd w hw with hSeen | ⟨x, hx, hSame⟩
      · rcases List.mem_cons.mp hSeen with hSame | hSeen
        · exact .inr ⟨v, List.mem_cons_self .., hSame.symm⟩
        · exact .inl hSeen
      · exact .inr ⟨x, List.mem_cons_of_mem _ hx, hSame⟩

/-- At a place among the events, an undefined variable is reported, and not before. -/
structure IsFirst (events : List Event) (i : Nat) (v : UndefinedVariable) : Prop where
  reports : ∃ e, events[i]? = some e ∧ e.Reports v
  new : ∀ j < i, ∀ e w, events[j]? = some e → e.Reports w → w.pair ≠ v.pair

theorem IsFirst.cons (h : IsFirst events i v) (hNew : ∀ w, e.Reports w → w.pair ≠ v.pair) :
    IsFirst (e :: events) (i + 1) v := by
  refine ⟨h.reports, fun j hj d w hd hw => ?_⟩
  cases j with
  | zero =>
    obtain rfl := Option.some.inj hd
    exact hNew w hw
  | succ j => exact h.new j (Nat.lt_of_succ_lt_succ hj) d w hd hw

/-- An event in front moves the places by one, if it reports none of what is found there. -/
theorem forall₂_isFirst_cons (h : List.Forall₂ (IsFirst events) places faults)
    (hNew : ∀ v ∈ faults, ∀ w, e.Reports w → w.pair ≠ v.pair) :
    List.Forall₂ (IsFirst (e :: events)) (places.map (· + 1)) faults := by
  induction h with
  | nil => exact .nil
  | cons hFirst _ ih =>
    obtain ⟨hHere, hLater⟩ := List.forall_mem_cons.mp hNew
    exact .cons (hFirst.cons hHere) (ih hLater)

/-- What is found is found in the order of the first reports. -/
theorem Firsts.exists_places (h : Firsts seen events faults) :
    ∃ places : List Nat, places.Pairwise (· < ·) ∧ List.Forall₂ (IsFirst events) places faults := by
  have hMoved {places : List Nat} (h : places.Pairwise (· < ·)) :
      (places.map (· + 1)).Pairwise (· < ·) := h.map (· + 1) fun _ _ => Nat.succ_lt_succ
  induction h with
  | nil => exact ⟨[], .nil, .nil⟩
  | silent hSilent _ ih =>
    obtain ⟨places, hAscending, hFirsts⟩ := ih
    exact ⟨_, hMoved hAscending,
      forall₂_isFirst_cons hFirsts fun _ _ w hw => absurd hw hSilent.not_reports⟩
  | known hReports hKnown hRest ih =>
    obtain ⟨places, hAscending, hFirsts⟩ := ih
    refine ⟨_, hMoved hAscending, forall₂_isFirst_cons hFirsts fun v hv w hw hSame => ?_⟩
    rw [hw.unique hReports] at hSame
    exact hRest.pair_not_mem v hv (hSame ▸ hKnown)
  | @first seen faults e es u hReports hNew hRest ih =>
    obtain ⟨places, hAscending, hFirsts⟩ := ih
    refine ⟨0 :: places.map (· + 1), List.pairwise_cons.mpr ⟨fun n hn => ?_, hMoved hAscending⟩,
      .cons ⟨⟨e, rfl, hReports⟩, fun j hj => absurd hj (Nat.not_lt_zero j)⟩
        (forall₂_isFirst_cons hFirsts fun v hv w hw hSame => ?_)⟩
    · obtain ⟨m, -, rfl⟩ := List.mem_map.mp hn
      exact Nat.succ_pos m
    · rw [hw.unique hReports] at hSame
      exact hRest.pair_not_mem v hv (hSame ▸ List.mem_cons_self ..)

/-- Events that report nothing new add nothing. -/
theorem firsts_nil (hReadable : ∀ e ∈ events, e.IsReadable)
    (hKnown : ∀ e ∈ events, ∀ w, e.Reports w → w.pair ∈ seen.map UndefinedVariable.pair) :
    Firsts seen events [] := by
  induction events with
  | nil => exact .nil
  | cons e es ih =>
    obtain ⟨he, hes⟩ := List.forall_mem_cons.mp hReadable
    obtain ⟨hHere, hLater⟩ := List.forall_mem_cons.mp hKnown
    rcases he.silent_or_reports with hSilent | ⟨v, hReports⟩
    · exact .silent hSilent (ih hes hLater)
    · exact .known hReports (hHere v hReports) (ih hes hLater)

/-- Nor do they behind other events, if what they report is found there. -/
theorem Firsts.append (h : Firsts seen events faults) (hReadable : ∀ e ∈ more, e.IsReadable)
    (hKnown : ∀ e ∈ more, ∀ w, e.Reports w →
      w.pair ∈ seen.map UndefinedVariable.pair ∨ ∃ v ∈ faults, v.pair = w.pair) :
    Firsts seen (events ++ more) faults := by
  induction h with
  | nil =>
    refine firsts_nil hReadable fun e he w hw => ?_
    rcases hKnown e he w hw with hSeen | ⟨v, hv, -⟩
    · exact hSeen
    · exact absurd hv List.not_mem_nil
  | silent hSilent _ ih => exact .silent hSilent (ih hKnown)
  | known hReports hOld _ ih => exact .known hReports hOld (ih hKnown)
  | @first seen faults e es u hReports hNew hRest ih =>
    refine .first hReports hNew (ih fun d hd w hw => ?_)
    rcases hKnown d hd w hw with hSeen | ⟨v, hv, hSame⟩
    · exact .inl (List.mem_cons_of_mem _ hSeen)
    · rcases List.mem_cons.mp hv with rfl | hv
      · exact .inl (hSame ▸ List.mem_cons_self ..)
      · exact .inr ⟨v, hv, hSame⟩

-- ---------------------------------------------------------------------------
-- Page runs
-- ---------------------------------------------------------------------------

/-- **The undefined variables of a page run** are told apart by name and line. They are those
that the events report, each where it is reported first and with the message that it has there.
Reports of what is known already change nothing. The keys that are compared decide as names and
lines do, for all names that can be read out of messages. -/
theorem undefinedVariables_firsts (hReadable : ∀ e ∈ events, e.IsReadable) :
    ∃ faults, undefinedVariables events = .ok faults ∧
      (faults.map UndefinedVariable.pair).Nodup ∧
      (∃ places : List Nat, places.Pairwise (· < ·) ∧
        List.Forall₂ (IsFirst events) places faults) ∧
      (∀ e ∈ events, ∀ name, e.isReferenceError = true → undefinedName? e.message = some name →
        ∃ line, e.line? = .ok line ∧ ∃ v ∈ faults, v.pair = (name, line.getD 0)) ∧
      (∀ more, (∀ e ∈ more, e.IsReadable) →
        (∀ e ∈ more, ∀ w, e.Reports w → ∃ d ∈ events, ∃ v, d.Reports v ∧ v.pair = w.pair) →
        undefinedVariables (events ++ more) = .ok faults) ∧
      ∀ v w : UndefinedVariable, (∃ message, undefinedName? message = some v.name) →
        (∃ message, undefinedName? message = some w.name) → (v.key = w.key ↔ v.pair = w.pair) := by
  obtain ⟨faults, hFirsts⟩ := exists_firsts hReadable []
  have hFound {e : Event} {w : UndefinedVariable} (he : e ∈ events) (hw : e.Reports w) :
      ∃ v ∈ faults, v.pair = w.pair :=
    (hFirsts.covers e he w hw).resolve_left List.not_mem_nil
  refine ⟨faults, hFirsts.undefinedVariables, hFirsts.pair_nodup, hFirsts.exists_places, ?_, ?_, ?_⟩
  · intro e he name hError hName
    obtain ⟨line, hLine⟩ := (hReadable e he).exists_line
    exact ⟨line, hLine, hFound he (w := ⟨name, line, e.message⟩) ⟨hError, hName, hLine, rfl⟩⟩
  · intro more hMore hKnown
    refine (hFirsts.append hMore fun e he w hw => .inr ?_).undefinedVariables
    obtain ⟨d, hd, u, hu, hSame⟩ := hKnown e he w hw
    obtain ⟨v, hv, hPair⟩ := hFound hd hu
    exact ⟨v, hv, hPair.trans hSame⟩
  · intro v w ⟨_, hv⟩ ⟨_, hw⟩
    exact key_eq_key_iff (colon_not_mem_name hv) (colon_not_mem_name hw)

/-- A draw loop that misses a name: each frame throws, and the browser writes it down. -/
def missedFish : List Event :=
  [⟨.pageError, "ReferenceError: fish is not defined".toList,
      some "at draw (file:///x.html:12:5)".toList, none⟩,
    ⟨.consoleError, "Uncaught ReferenceError: fish is not defined".toList, none, none⟩,
    ⟨.pageError, "ReferenceError: fish is not defined".toList,
      some "at draw (file:///x.html:12:5)".toList, none⟩]

/-- With and without a line it is another fault, and the second frame changes nothing. -/
theorem undefinedVariables_firsts_missedFish :
    (∀ e ∈ missedFish, e.IsReadable) ∧
      undefinedVariables missedFish =
        .ok [⟨"fish".toList, some 12, "ReferenceError: fish is not defined".toList⟩,
          ⟨"fish".toList, none, "Uncaught ReferenceError: fish is not defined".toList⟩] ∧
      undefinedVariables (missedFish ++ missedFish) = undefinedVariables missedFish := by
  have hShort : ∀ e ∈ missedFish, e.message.length ≤ 4300 ∧
      ∀ s ∈ e.stack, s.length ≤ 4300 := by decide
  have hReadable : ∀ e ∈ missedFish, e.IsReadable := fun e he =>
    ⟨shortRuns_of_length_le (hShort e he).1, fun s hs =>
      shortRuns_of_length_le ((hShort e he).2 s hs)⟩
  obtain ⟨faults, hFaults, -, -, -, hMore, -⟩ := undefinedVariables_firsts hReadable
  refine ⟨hReadable, by decide +kernel, ?_⟩
  rw [hFaults]
  exact hMore missedFish hReadable fun e he w hw => ⟨e, he, w, hw, rfl⟩

end Page

end SketchRepair
