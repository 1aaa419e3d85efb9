import SketchRepair.Answer.Patches
import SketchRepair.Prompt.MissingFunction
import SketchRepair.Prompt.Paren
import SketchRepair.Prompt.Undefined
import SketchRepair.Proofs.Json.Overlong
import SketchRepair.Proofs.Text.Blank

/-!
# SketchRepair — answers that cannot be read

Whatever the oracle answers, a pass should be able to go on: an answer of no use means
that there is no patch. Answers about style sheets, script tags and shader materials
are always read. Answers with patches are read as JSON, and there three things go
wrong: a whole number has too many digits, a line number is infinite, or a line number
that is picked out of a text that is no JSON is none. Where an answer proposes nothing for
an undefined variable, its name becomes part of a template, and a name that holds a
backslash may make it none. Nothing else aborts the reading of an answer.

* `array?_eq_error_iff`, `array?_eq_some_iff` — which of the texts in an answer
  decides on its items;
* `HasOverlong.exists_run` — a number that is refused for its length stands in the answer;
* `linePatches_eq_error_iff`, `blockPatches_eq_error_iff` — items with an infinite line;
* `readAnswer_aborts_iff` — what aborts the reading of an answer, question by question.
-/

namespace SketchRepair

namespace Answer

variable {bareFirst : Bool} {answer t : Text} {e : Abort}

-- ---------------------------------------------------------------------------
-- The texts of an answer
-- ---------------------------------------------------------------------------

/-- The text of the first fenced block. -/
def fencedText? (answer : Text) : Option Text := fencedBlock? (dropLabel ["json".toList]) answer

/-- The texts of an answer that may be JSON, in the order in which they are tried. -/
def candidates (bareFirst : Bool) (answer : Text) : List Text :=
  if answer.isEmpty then []
  else if bareFirst then
    (bareArray? answer).toList ++ (fencedText? answer).toList ++ [Text.trim answer]
  else (fencedText? answer).toList ++ (bareArray? answer).toList ++ [Text.trim answer]

/-- The text that decides on the items of an answer: those that are tried before it
denote none. -/
def Decides (bareFirst : Bool) (answer t : Text) : Prop :=
  ∃ before after, candidates bareFirst answer = before ++ t :: after ∧
    ∀ u ∈ before, items? u = .ok none

/-- The answer has these items. -/
def HasItems (bareFirst : Bool) (answer : Text) (items : List Json) : Prop :=
  ∃ t, Decides bareFirst answer t ∧ items? t = .ok (some items)

/-- The JSON of the answer holds a whole number of `n` digits, which are too many. -/
def HasOverlong (bareFirst : Bool) (answer : Text) (n : Nat) : Prop :=
  ∃ t, Decides bareFirst answer t ∧ Json.parse t = .error (.tooLong n)

/-- Texts are tried until one of them denotes items or is refused. -/
def firstItems : List Text → Except Abort (Option (List Json))
  | [] => .ok none
  | t :: ts =>
    match items? t with
    | .error e => .error e
    | .ok (some items) => .ok (some items)
    | .ok none => firstItems ts

theorem firstItems_append (ts us : List Text) :
    firstItems (ts ++ us) =
      match firstItems ts with
      | .error e => .error e
      | .ok (some items) => .ok (some items)
      | .ok none => firstItems us := by
  induction ts with
  | nil => rfl
  | cons t ts ih =>
    rw [List.cons_append, firstItems, firstItems]
    cases items? t with
    | error e => rfl
    | ok found =>
      cases found with
      | none => exact ih
      | some items => rfl

theorem firstItems_toList (found : Option Text) :
    firstItems found.toList = match found with
      | some t => items? t
      | none => .ok none := by
  cases found with
  | none => rfl
  | some t =>
    show firstItems [t] = items? t
    rw [firstItems]
    cases items? t with
    | error e => rfl
    | ok items => cases items <;> rfl

theorem array?_eq (bareFirst : Bool) (answer : Text) :
    array? bareFirst answer = firstItems (candidates bareFirst answer) := by
  have hFenced : fencedItems? answer = firstItems (fencedText? answer).toList := by
    rw [firstItems_toList]
    unfold fencedItems? fencedText?
    cases fencedBlock? (dropLabel ["json".toList]) answer <;> rfl
  have hBare : bareItems? answer = firstItems (bareArray? answer).toList := by
    rw [firstItems_toList]
    unfold bareItems?
    cases bareArray? answer <;> rfl
  have hWhole : items? (Text.trim answer) = firstItems [Text.trim answer] :=
    (firstItems_toList (some (Text.trim answer))).symm
  unfold array? candidates
  split
  · rfl
  · cases bareFirst with
    | true =>
      simp only [if_true]
      rw [firstItems_append, firstItems_append, ← hFenced, ← hBare, ← hWhole]
      cases bareItems? answer with
      | error e => rfl
      | ok items =>
        cases items with
        | some items => rfl
        | none => cases fencedItems? answer <;> rfl
    | false =>
      simp only [Bool.false_eq_true, if_false]
      rw [firstItems_append, firstItems_append, ← hFenced, ← hBare, ← hWhole]
      cases fencedItems? answer with
      | error e => rfl
      | ok items =>
        cases items with
        | some items => rfl
        | none => cases bareItems? answer <;> rfl

/-- The first text that denotes items or is refused decides. -/
theorem firstItems_eq_iff {ts : List Text} {r : Except Abort (Option (List Json))}
    (hr : r ≠ .ok none) :
    firstItems ts = r ↔
      ∃ before u after, ts = before ++ u :: after ∧ (∀ w ∈ before, items? w = .ok none) ∧
        items? u = r := by
  constructor
  · intro h
    induction ts with
    | nil => exact absurd h.symm hr
    | cons t ts ih =>
      rw [firstItems] at h
      cases ht : items? t with
      | error e =>
        rw [ht] at h
        exact ⟨[], t, ts, rfl, by simp, ht.trans h⟩
      | ok found =>
        rw [ht] at h
        cases found with
        | some items => exact ⟨[], t, ts, rfl, by simp, ht.trans h⟩
        | none =>
          obtain ⟨before, u, after, rfl, hBefore, hu⟩ := ih h
          refine ⟨t :: before, u, after, rfl, ?_, hu⟩
          intro w hw
          rcases List.mem_cons.mp hw with rfl | hw'
          · exact ht
          · exact hBefore w hw'
  · rintro ⟨before, u, after, rfl, hBefore, rfl⟩
    have hNone : firstItems before = .ok none := by
      clear hr
      induction before with
      | nil => rfl
      | cons w before ih =>
        rw [firstItems, hBefore w (List.mem_cons_self ..)]
        exact ih fun v hv => hBefore v (List.mem_cons_of_mem _ hv)
    rw [firstItems_append, hNone]
    dsimp only
    rw [firstItems]
    cases hu : items? u with
    | error e => rfl
    | ok found =>
      cases found with
      | some items => rfl
      | none => exact absurd hu hr

theorem items?_eq_error_iff :
    items? t = .error e ↔
      ∃ n, Json.parse t = .error (.tooLong n) ∧ e = .unreadable (.tooLong n) := by
  unfold items?
  cases Json.parse t with
  | ok v => cases v <;> simp
  | error fault =>
    cases fault with
    | malformed offset => simp
    | tooLong n => simp [eq_comm]

/-- An array is refused exactly when the deciding text holds a number that is too long. -/
theorem array?_eq_error_iff :
    array? bareFirst answer = .error e ↔
      ∃ n, HasOverlong bareFirst answer n ∧ e = .unreadable (.tooLong n) := by
  rw [array?_eq, firstItems_eq_iff (by simp)]
  constructor
  · rintro ⟨before, u, after, hTexts, hBefore, hu⟩
    obtain ⟨n, hn, rfl⟩ := items?_eq_error_iff.mp hu
    exact ⟨n, ⟨u, ⟨before, after, hTexts, hBefore⟩, hn⟩, rfl⟩
  · rintro ⟨n, ⟨u, ⟨before, after, hTexts, hBefore⟩, hn⟩, rfl⟩
    exact ⟨before, u, after, hTexts, hBefore, items?_eq_error_iff.mpr ⟨n, hn, rfl⟩⟩

theorem array?_eq_some_iff {items : List Json} :
    array? bareFirst answer = .ok (some items) ↔ HasItems bareFirst answer items := by
  rw [array?_eq, firstItems_eq_iff (by simp)]
  constructor
  · rintro ⟨before, u, after, hTexts, hBefore, hu⟩
    exact ⟨u, ⟨before, after, hTexts, hBefore⟩, hu⟩
  · rintro ⟨u, ⟨before, after, hTexts, hBefore⟩, hu⟩
    exact ⟨before, u, after, hTexts, hBefore, hu⟩

theorem array?_eq_none_iff :
    array? bareFirst answer = .ok none ↔ ∀ t ∈ candidates bareFirst answer, items? t = .ok none := by
  rw [array?_eq]
  induction candidates bareFirst answer with
  | nil => simp [firstItems]
  | cons t ts ih =>
    rw [firstItems, List.forall_mem_cons]
    cases items? t with
    | error e => simp
    | ok found =>
      cases found with
      | none => simpa using ih
      | some items => simp

-- ---------------------------------------------------------------------------
-- What is refused stands in the answer
-- ---------------------------------------------------------------------------

theorem dropLabel_suffix (names : List Text) (t : Text) : dropLabel names t <:+ t := by
  unfold dropLabel
  cases h : names.findSome? fun n => Text.after? n t with
  | none => exact List.suffix_refl t
  | some r =>
    obtain ⟨n, -, hAfter⟩ := List.exists_of_findSome?_eq_some h
    exact Json.after?_suffix hAfter

theorem isInfix_of_fencedText? (h : fencedText? answer = some t) : t <:+: answer := by
  unfold fencedText? fencedBlock? at h
  split at h
  · simp at h
  · next before behind hOpen =>
    obtain ⟨⟨body, rest⟩, hClose, rfl⟩ := Option.map_eq_some_iff.mp h
    have hBehind : behind <:+ answer := ⟨before ++ fence, (Text.cut?_eq_some hOpen).symm⟩
    have hBody : body <+: dropLabel ["json".toList] behind :=
      ⟨fence ++ rest, by rw [← List.append_assoc]; exact (Text.cut?_eq_some hClose).symm⟩
    exact (Text.isInfix_trim body).trans
      (hBody.isInfix.trans ((dropLabel_suffix _ behind).trans hBehind).isInfix)

theorem isInfix_of_bareArray? (h : bareArray? answer = some t) : t <:+: answer := by
  unfold bareArray? at h
  split at h
  · simp at h
  · next before found hSearch =>
    obtain ⟨n, -, rfl⟩ := Option.map_eq_some_iff.mp h
    obtain ⟨rest, rfl, hOpens⟩ := Text.search_eq_some hSearch
    split at hOpens
    · rw [Option.some.injEq] at hOpens
      subst hOpens
      exact (List.take_prefix n rest).isInfix.trans (List.suffix_append before rest).isInfix
    · simp at hOpens

theorem isInfix_of_mem_candidates (h : t ∈ candidates bareFirst answer) : t <:+: answer := by
  have hOneOf : fencedText? answer = some t ∨ bareArray? answer = some t ∨
      t = Text.trim answer := by
    unfold candidates at h
    split at h
    · simp at h
    · split at h
      · simp only [List.mem_append, Option.mem_toList, List.mem_singleton] at h
        tauto
      · simp only [List.mem_append, Option.mem_toList, List.mem_singleton] at h
        tauto
  rcases hOneOf with hFenced | hBare | rfl
  · exact isInfix_of_fencedText? hFenced
  · exact isInfix_of_bareArray? hBare
  · exact Text.isInfix_trim answer

theorem HasOverlong.exists_run {n : Nat} (h : HasOverlong bareFirst answer n) :
    ∃ run, Json.IsOverlong n run ∧ run <:+: answer := by
  obtain ⟨t, ⟨before, after, hTexts, -⟩, hParse⟩ := h
  obtain ⟨run, hRun, hInfix⟩ := Json.exists_run_of_parse hParse
  have hCandidate : t ∈ candidates bareFirst answer := by simp [hTexts]
  exact ⟨run, hRun, hInfix.trans (isInfix_of_mem_candidates hCandidate)⟩

-- ---------------------------------------------------------------------------
-- Items of an answer
-- ---------------------------------------------------------------------------

/-- The line number of a line patch is an infinity. -/
def HasInfiniteLine (v : Json) : Prop := (v.field "lineNumber".toList).toWhole = .error .infinite

/-- The first line of a block patch is an infinity, or it is a number and the last
line is an infinity. -/
def HasInfiniteRange (v : Json) : Prop :=
  (v.field "startLine".toList).toWhole = .error .infinite ∨
    (∃ first, (v.field "startLine".toList).toWhole = .ok first) ∧
      (v.field "endLine".toList).toWhole = .error .infinite

section Collect

variable {α : Type} {read : Json → Except Abort (Option α)} {items : List Json}

/-- Items that can be refused for one cause only: the order in which they are read
does not matter. -/
theorem collect_eq_error_iff {bad : Json → Prop} {cause : Abort}
    (hRead : ∀ v e, read v = .error e ↔ bad v ∧ e = cause) :
    collect read items = .error e ↔ (∃ v ∈ items, bad v) ∧ e = cause := by
  induction items with
  | nil => simp [collect]
  | cons v vs ih =>
    rw [collect, List.exists_mem_cons_iff]
    cases hv : read v with
    | error e' =>
      obtain ⟨hBad, rfl⟩ := (hRead v e').mp hv
      simp [hBad, eq_comm]
    | ok p =>
      have hGood : ¬ bad v := by
        intro hBad
        have hError := (hRead v cause).mpr ⟨hBad, rfl⟩
        rw [hv] at hError
        simp at hError
      cases hRest : collect read vs with
      | error e' =>
        rw [hRest] at ih
        simpa [Except.map, hGood] using ih
      | ok ps =>
        rw [hRest] at ih
        simpa [Except.map, hGood] using ih

theorem collect_eq_nil_iff :
    collect read items = .ok [] ↔ ∀ v ∈ items, read v = .ok none := by
  induction items with
  | nil => simp [collect]
  | cons v vs ih =>
    rw [collect, List.forall_mem_cons, ← ih]
    cases read v with
    | error e => simp
    | ok p =>
      cases collect read vs with
      | error e => simp [Except.map]
      | ok ps => cases p <;> simp [Except.map]

end Collect

theorem ofWholeError_eq_error_iff {α : Type} {x : Except Json.WholeError (Option α)} :
    Abort.ofWholeError x = .error e ↔ x = .error .infinite ∧ e = .infinite := by
  unfold Abort.ofWholeError
  split
  · simp
  · simp [eq_comm]
  · simp

theorem toWhole_field_of_no_object {v : Json} (h : ∀ fields, v = .obj fields → False)
    (name : Text) : (v.field name).toWhole = .error .notNumeric := by
  cases v with
  | obj fields => exact (h fields rfl).elim
  | _ => rfl

theorem linePatch_eq_infinite_iff {fixedName : Text} {v : Json} :
    Patch.LinePatch.ofJson? fixedName v = .error .infinite ↔ HasInfiniteLine v := by
  unfold Patch.LinePatch.ofJson? HasInfiniteLine
  split
  · split
    · next h => exact ⟨fun _ => h, fun _ => rfl⟩
    · next h => simp only [h, reduceCtorEq, Except.error.injEq]
    · next line h =>
      rw [h]
      split
      · exact ⟨nofun, nofun⟩
      · exact ⟨nofun, nofun⟩
  · next hNoObject =>
    rw [toWhole_field_of_no_object hNoObject]
    exact ⟨nofun, nofun⟩

theorem blockPatch_eq_infinite_iff {v : Json} :
    Patch.BlockPatch.ofJson? v = .error .infinite ↔ HasInfiniteRange v := by
  unfold Patch.BlockPatch.ofJson? HasInfiniteRange
  split
  · split
    · next h => simp only [h, true_or]
    · next h => simp only [h, reduceCtorEq, Except.error.injEq, exists_false, false_and, or_false]
    · next first h =>
      simp only [h, reduceCtorEq, false_or, Except.ok.injEq, exists_eq', true_and]
      split
      · next hLast => exact ⟨fun _ => hLast, fun _ => rfl⟩
      · next hLast => simp only [hLast, reduceCtorEq, Except.error.injEq]
      · next last hLast =>
        rw [hLast]
        exact ⟨nofun, nofun⟩
  · next hNoObject =>
    rw [toWhole_field_of_no_object hNoObject, toWhole_field_of_no_object hNoObject]
    simp

theorem linePatches_eq_error_iff {fixedName : Text} {items : List Json} :
    linePatches fixedName items = .error e ↔ (∃ v ∈ items, HasInfiniteLine v) ∧ e = .infinite := by
  refine collect_eq_error_iff ?_
  intro v e
  rw [ofWholeError_eq_error_iff, linePatch_eq_infinite_iff]

theorem blockPatches_eq_error_iff {items : List Json} :
    blockPatches items = .error e ↔ (∃ v ∈ items, HasInfiniteRange v) ∧ e = .infinite := by
  refine collect_eq_error_iff ?_
  intro v e
  rw [ofWholeError_eq_error_iff, blockPatch_eq_infinite_iff]

-- ---------------------------------------------------------------------------
-- Answers
-- ---------------------------------------------------------------------------

/-- The JSON of an answer is refused, where `infinite` tells the items with a line
that is an infinity. -/
inductive Refused (bareFirst : Bool) (infinite : Json → Prop) (answer : Text) : Abort → Prop where
  | overlong {n : Nat} (h : HasOverlong bareFirst answer n) :
    Refused bareFirst infinite answer (.unreadable (.tooLong n))
  | infinite {items : List Json} {v : Json} (hItems : HasItems bareFirst answer items)
    (hMem : v ∈ items) (hInfinite : infinite v) : Refused bareFirst infinite answer .infinite

theorem refused_iff {infinite : Json → Prop} :
    Refused bareFirst infinite answer e ↔
      array? bareFirst answer = .error e ∨
        ∃ items, array? bareFirst answer = .ok (some items) ∧ (∃ v ∈ items, infinite v) ∧
          e = .infinite := by
  constructor
  · intro h
    cases h with
    | overlong h => exact .inl (array?_eq_error_iff.mpr ⟨_, h, rfl⟩)
    | infinite hItems hMem hInfinite =>
      exact .inr ⟨_, array?_eq_some_iff.mpr hItems, ⟨_, hMem, hInfinite⟩, rfl⟩
  · rintro (h | ⟨items, hItems, ⟨v, hMem, hInfinite⟩, rfl⟩)
    · obtain ⟨n, hn, rfl⟩ := array?_eq_error_iff.mp h
      exact .overlong hn
    · exact .infinite (array?_eq_some_iff.mp hItems) hMem hInfinite

/-- The answer proposes no line patch: none of its texts denotes items, or none of the
items describes a patch. -/
def ProposesNothing (answer : Text) : Prop :=
  (∀ t ∈ candidates false answer, items? t = .ok none) ∨
    ∃ items, HasItems false answer items ∧
      ∀ v ∈ items,
        Abort.ofWholeError (Patch.LinePatch.ofJson? "replacement".toList v) = .ok none

theorem proposesNothing_iff :
    ProposesNothing answer ↔
      array? false answer = .ok none ∨
        ∃ items, array? false answer = .ok (some items) ∧
          linePatches "replacement".toList items = .ok [] := by
  unfold ProposesNothing linePatches
  simp only [array?_eq_none_iff, array?_eq_some_iff, collect_eq_nil_iff]

/-- A line number and another field can be picked out of the text, and the line number
cannot be read. -/
def MisreadsLine (answer : Text) (cause : Decimal.ReadError) : Prop :=
  ∃ digits, fieldValue? "lineNumber".toList answer = some digits ∧
    (fieldValue? "original".toList answer ≠ none ∨
      fieldValue? "replacement".toList answer ≠ none) ∧
    Decimal.readInt digits = .error cause

/-- No patch can be picked out of the text: it holds no line number, or nothing else. -/
def RecoversNothing (answer : Text) : Prop :=
  fieldValue? "lineNumber".toList answer = none ∨
    fieldValue? "original".toList answer = none ∧ fieldValue? "replacement".toList answer = none

end Answer

namespace Prompt

open Answer

variable {answer : Text} {e : Abort}

theorem ParenContext.readAnswer_eq_error :
    ParenContext.readAnswer answer = .error e ↔ Refused false HasInfiniteLine answer e := by
  rw [refused_iff, ParenContext.readAnswer]
  cases array? false answer with
  | error e' => simp
  | ok found =>
    cases found with
    | none => simp
    | some items => simp [linePatches_eq_error_iff]

theorem MissingFunctionContext.readAnswer_eq_error :
    MissingFunctionContext.readAnswer answer = .error e ↔
      Refused true HasInfiniteRange answer e := by
  rw [refused_iff, MissingFunctionContext.readAnswer]
  cases array? true answer with
  | error e' => simp
  | ok found =>
    cases found with
    | none => simp
    | some items => simp [blockPatches_eq_error_iff]

namespace UndefinedContext

variable (c : UndefinedContext)

theorem recovered?_eq_error :
    c.recovered? answer = .error e ↔ ∃ cause, MisreadsLine answer cause ∧ e = .unreadable cause := by
  unfold UndefinedContext.recovered? MisreadsLine
  dsimp only
  cases fieldValue? "lineNumber".toList answer with
  | none => simp
  | some digits =>
    dsimp only
    generalize fieldValue? "original".toList answer = expected
    generalize fieldValue? "replacement".toList answer = replacement
    split
    · next h =>
      simp only [Option.isNone_iff_eq_none] at h
      simp [h]
    · next h =>
      have hOther : expected ≠ none ∨ replacement ≠ none := by
        rw [Option.isNone_iff_eq_none, Option.isNone_iff_eq_none] at h
        exact Decidable.not_and_iff_not_or_not.mp h
      cases hRead : Decimal.readInt digits with
      | error cause =>
        simp only [Abort.ofReadError, Except.error.injEq, Option.some.injEq, exists_eq_left', hRead,
          hOther, true_and]
        rw [eq_comm]
      | ok line => simp [Abort.ofReadError, hRead]

theorem recovered?_eq_none :
    c.recovered? answer = .ok none ↔ RecoversNothing answer := by
  unfold UndefinedContext.recovered? RecoversNothing
  dsimp only
  generalize fieldValue? "original".toList answer = expected
  generalize fieldValue? "replacement".toList answer = replacement
  cases fieldValue? "lineNumber".toList answer with
  | none => simp
  | some digits =>
    simp only [Option.isNone_iff_eq_none, reduceCtorEq, false_or]
    split
    · next h => exact ⟨fun _ => h, fun _ => rfl⟩
    · next h =>
      refine ⟨?_, fun hNothing => absurd hNothing h⟩
      cases Abort.ofReadError (Decimal.readInt digits) <;> simp

/-- The script mentions the variable, and its name makes no template of the fallback. -/
def Misguards (complaint : Text) : Prop :=
  c.mentionLines ≠ [] ∧ Text.Template.expand c.name c.guardTemplate = .error complaint

theorem guard?_eq_error :
    c.guard? = .error e ↔ ∃ complaint, c.Misguards complaint ∧ e = .failed complaint := by
  unfold UndefinedContext.guard? Misguards
  cases c.mentionLines with
  | nil => simp
  | cons n later =>
    cases Text.Template.expand c.name c.guardTemplate with
    | error complaint => simp [eq_comm]
    | ok replacement => simp

/-- Only a backslash makes a name no part of a template. -/
theorem mem_name_of_misguards {complaint : Text} (h : c.Misguards complaint) :
    '\\' ∈ c.name := by
  by_contra hPlain
  rw [Misguards, UndefinedContext.expand_guardTemplate hPlain] at h
  exact absurd h.2 (by simp)

theorem withoutProposal_eq_error :
    c.withoutProposal answer = .error e ↔
      (∃ cause, MisreadsLine answer cause ∧ e = .unreadable cause) ∨
        RecoversNothing answer ∧ ∃ complaint, c.Misguards complaint ∧ e = .failed complaint := by
  rw [← c.recovered?_eq_error, ← c.recovered?_eq_none, ← c.guard?_eq_error,
    UndefinedContext.withoutProposal]
  cases c.recovered? answer with
  | error e' => simp
  | ok found =>
    cases found with
    | some p => simp
    | none => cases c.guard? <;> simp

theorem readAnswer_eq_error :
    c.readAnswer answer = .error e ↔
      Refused false HasInfiniteLine answer e ∨
        ProposesNothing answer ∧
          ((∃ cause, MisreadsLine answer cause ∧ e = .unreadable cause) ∨
            RecoversNothing answer ∧
              ∃ complaint, c.Misguards complaint ∧ e = .failed complaint) := by
  rw [refused_iff, proposesNothing_iff, ← c.withoutProposal_eq_error,
    UndefinedContext.readAnswer]
  cases array? false answer with
  | error e' => simp
  | ok found =>
    cases found with
    | none => simp
    | some items =>
      have hError : linePatches "replacement".toList items = .error e ↔ _ :=
        linePatches_eq_error_iff
      simp only [reduceCtorEq, false_or, Except.ok.injEq, Option.some.injEq, exists_eq_left',
        ← hError]
      generalize linePatches "replacement".toList items = patches
      match patches with
      | .error e' => simp
      | .ok [] => simp
      | .ok (p :: ps) => simp

end UndefinedContext

/-- **Which answers abort a pass.** An answer about parentheses or about a missing
function aborts exactly when its JSON is refused, for a whole number of too many digits
or for a line that is an infinity. An answer about an undefined variable also aborts when
it proposes nothing and the line number that is picked out of it cannot be read, or when
nothing is picked out and the name of the variable makes no template. A number that is
refused for its length is a run of digits in the answer, and a name that makes no template
holds a backslash. -/
theorem readAnswer_aborts_iff (c : UndefinedContext) (answer : Text) (e : Abort) :
    (ParenContext.readAnswer answer = .error e ↔ Refused false HasInfiniteLine answer e) ∧
    (MissingFunctionContext.readAnswer answer = .error e ↔
      Refused true HasInfiniteRange answer e) ∧
    (c.readAnswer answer = .error e ↔
      Refused false HasInfiniteLine answer e ∨
        ProposesNothing answer ∧
          ((∃ cause, MisreadsLine answer cause ∧ e = .unreadable cause) ∨
            RecoversNothing answer ∧
              ∃ complaint, c.Misguards complaint ∧ e = .failed complaint)) ∧
    (∀ bareFirst n, HasOverlong bareFirst answer n →
      ∃ run, Json.IsOverlong n run ∧ run <:+: answer) ∧
    ∀ complaint, c.Misguards complaint → '\\' ∈ c.name :=
  ⟨ParenContext.readAnswer_eq_error, MissingFunctionContext.readAnswer_eq_error,
    c.readAnswer_eq_error, fun _ _ h => h.exists_run, fun _ h => c.mem_name_of_misguards h⟩

/-- A line number in words is found, and cannot be read. -/
example :
    UndefinedContext.readAnswer ⟨"y;".toList, "x".toList, "x is not defined".toList⟩
        "lineNumber: \"one\", original: \"x;\"".toList =
      .error (.unreadable (.malformed "one".toList)) := by
  decide +kernel

/-- A name with a backslash is tried as a part of the template, and makes it none. -/
example :
    UndefinedContext.readAnswer ⟨"a\\q;".toList, "a\\q".toList, []⟩ "no".toList =
      .error (.failed "bad escape \\q at position 9".toList) := by
  decide +kernel

end Prompt

end SketchRepair
