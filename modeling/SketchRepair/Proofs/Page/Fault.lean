import Mathlib.Data.List.TakeWhile
import SketchRepair.Page.Fault
import SketchRepair.Proofs.Text.Blank
import SketchRepair.Proofs.Text.Letter
import SketchRepair.Proofs.Text.Occurrence
import SketchRepair.Text.Word

/-!
# SketchRepair — the names of undefined variables

Messages of errors may hold any text, and what is read out of them goes into the
scripts of a page. A name is a run of name characters, so it brings no markup along.

* `exists_event_of_mem_undefinedVariables` — a fault is named by an event;
* `lt_not_mem_name` — the name of an undefined variable begins no tag;
* `name_isName` — it is a word of name characters, none of which is blank;
* `isIdentifier_of_isNameChar` — these are identifier characters of scripts.
-/

namespace SketchRepair

namespace Page

variable {events : List Event} {faults : List UndefinedVariable} {v : UndefinedVariable}

theorem exists_event_of_mem_distinct : ∀ {events : List Event} {seen : List Text}
    {faults : List UndefinedVariable}, distinctFrom seen events = .ok faults → v ∈ faults →
      ∃ e ∈ events, e.undefinedVariable? = .ok (some v) := by
  intro events
  induction events with
  | nil =>
    intro seen faults h hv
    rw [distinctFrom, Except.ok.injEq] at h
    subst h
    simp at hv
  | cons e es ih =>
    intro seen faults h hv
    have hLater {seen : List Text} {faults : List UndefinedVariable}
        (h : distinctFrom seen es = .ok faults) (hv : v ∈ faults) :
        ∃ d ∈ e :: es, d.undefinedVariable? = .ok (some v) := by
      obtain ⟨d, hd, hNames⟩ := ih h hv
      exact ⟨d, List.mem_cons_of_mem _ hd, hNames⟩
    rw [distinctFrom] at h
    split at h
    · simp at h
    · exact hLater h hv
    · next w hw =>
      split at h
      · exact hLater h hv
      · cases hRest : distinctFrom (w.key :: seen) es with
        | error err =>
          rw [hRest] at h
          simp [Except.map] at h
        | ok rest =>
          rw [hRest, Except.map, Except.ok.injEq] at h
          subst h
          rcases List.mem_cons.mp hv with rfl | hv
          · exact ⟨e, List.mem_cons_self .., hw⟩
          · exact hLater hRest hv

theorem exists_event_of_mem_undefinedVariables (h : undefinedVariables events = .ok faults)
    (hv : v ∈ faults) :
    ∃ e ∈ events, undefinedName? e.message = some v.name := by
  obtain ⟨e, he, hNames⟩ := exists_event_of_mem_distinct h hv
  refine ⟨e, (List.mem_filter.mp he).1, ?_⟩
  unfold Event.undefinedVariable? at hNames
  split at hNames
  · simp at hNames
  · next name hName =>
    cases hLine : e.line? with
    | error err =>
      rw [hLine] at hNames
      simp [Except.map] at hNames
    | ok line =>
      rw [hLine, Except.map, Except.ok.injEq, Option.some.injEq] at hNames
      subst hNames
      exact hName

theorem isNameChar_of_mem {message name : Text} (h : undefinedName? message = some name) :
    ∀ c ∈ name, isNameChar c = true := by
  obtain ⟨⟨run, rest⟩, hFind, rfl⟩ := Option.map_eq_some_iff.mp h
  obtain ⟨⟨before, found⟩, hSearch, rfl⟩ := Option.map_eq_some_iff.mp hFind
  obtain ⟨t, -, hSubject⟩ := Text.search_eq_some hSearch
  unfold subjectHere at hSubject
  dsimp only at hSubject
  split at hSubject
  · simp at hSubject
  · obtain ⟨r, -, hPair⟩ := Option.map_eq_some_iff.mp hSubject
    obtain ⟨rfl, -⟩ := Prod.mk.inj hPair
    intro c hc
    exact List.mem_takeWhile_imp hc

/-- The name of an undefined variable begins no tag. -/
theorem lt_not_mem_name (h : undefinedVariables events = .ok faults) (hv : v ∈ faults) :
    '<' ∉ v.name := by
  obtain ⟨e, -, hName⟩ := exists_event_of_mem_undefinedVariables h hv
  intro hMem
  have hChar : isNameChar '<' = true := isNameChar_of_mem hName '<' hMem
  revert hChar
  decide

-- ---------------------------------------------------------------------------
-- Names
-- ---------------------------------------------------------------------------

/-- A run of name characters. -/
structure IsName (name : Text) : Prop where
  nonempty : name ≠ []
  chars : ∀ c ∈ name, isNameChar c = true

theorem IsName.not_mem {name : Text} (h : IsName name) {c : Char} (hc : isNameChar c = false) :
    c ∉ name := by
  intro hMem
  exact Bool.false_ne_true (hc.symm.trans (h.chars c hMem))

theorem isName_of_undefinedName? {message name : Text} (h : undefinedName? message = some name) :
    IsName name := by
  refine ⟨?_, isNameChar_of_mem h⟩
  obtain ⟨⟨run, rest⟩, hFind, rfl⟩ := Option.map_eq_some_iff.mp h
  obtain ⟨⟨before, found⟩, hSearch, rfl⟩ := Option.map_eq_some_iff.mp hFind
  obtain ⟨t, -, hSubject⟩ := Text.search_eq_some hSearch
  unfold subjectHere at hSubject
  dsimp only at hSubject
  split at hSubject
  · simp at hSubject
  · next hRun =>
    obtain ⟨r, -, hPair⟩ := Option.map_eq_some_iff.mp hSubject
    obtain ⟨rfl, -⟩ := Prod.mk.inj hPair
    simpa using hRun

theorem name_isName (h : undefinedVariables events = .ok faults) (hv : v ∈ faults) :
    IsName v.name := by
  obtain ⟨e, -, hName⟩ := exists_event_of_mem_undefinedVariables h hv
  exact isName_of_undefinedName? hName

/-- No name character is blank. -/
theorem isBlank_eq_false_of_isNameChar {c : Char} (h : isNameChar c = true) :
    isBlank c = false := by
  by_contra hBlank
  rw [Bool.not_eq_false] at hBlank
  have hLow : c ≠ '_' := Text.ne_of_class hBlank (by decide)
  have hDollar : c ≠ '$' := Text.ne_of_class hBlank (by decide)
  rw [isNameChar, Text.fold_of_isBlank hBlank, Text.isAlphanum_of_isBlank hBlank] at h
  simp [hLow, hDollar] at h

/-- Name characters are identifier characters, also those that stand for letters of ASCII
when case is ignored. -/
theorem isIdentifier_of_isNameChar {c : Char} (h : isNameChar c = true) :
    isIdentifier c = true := by
  have hAlphanum (h : c.isAlphanum = true) : isIdentifier c = true := by
    rw [isIdentifier, isWord, if_pos (Text.lt_of_isAlphanum h), h]
    rfl
  simp only [isNameChar, Bool.or_eq_true, decide_eq_true_eq] at h
  rcases h with (h | rfl) | rfl
  · unfold fold at h
    split at h
    · next hUpper =>
      refine hAlphanum ?_
      show ((c.isUpper || c.isLower) || c.isDigit) = true
      rw [hUpper]
      rfl
    split at h
    · next hc => rw [hc]; decide
    split at h
    · next hc => rw [hc]; decide +kernel
    split at h
    · next hc => rcases hc with rfl | rfl <;> decide
    · exact hAlphanum h
  · decide
  · decide

end Page

end SketchRepair
