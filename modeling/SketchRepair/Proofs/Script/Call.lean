import SketchRepair.Proofs.Text.Occurrence
import SketchRepair.Script.Call

/-!
# SketchRepair — where a missing function is called

A call site spells the function out. So a function that is called on a line of a
script has no line feed in its name, and none in the name of its object.

* `exists_of_spans` — a match that is listed stands somewhere in the text;
* `not_mem_reference` — the name of a function that is called on a line;
* `mem_callLines` — the lines that are listed.
-/

namespace SketchRepair

namespace Text

theorem exists_of_spansFrom {m : Option Char → Text → Option Nat} {t : Text} :
    ∀ {covered i : Nat} {prev : Option Char}, spansFrom m covered i prev t ≠ [] →
      ∃ before u, u <:+ t ∧ m before u ≠ none := by
  induction t with
  | nil =>
    intro covered i prev h
    rw [spansFrom] at h
    split at h
    · next hMatch => exact ⟨prev, [], List.suffix_refl _, by simp [hMatch.2]⟩
    · simp at h
  | cons c t ih =>
    intro covered i prev h
    cases covered with
    | succ covered =>
      rw [spansFrom] at h
      obtain ⟨before, u, hu, hMatch⟩ := ih h
      exact ⟨before, u, hu.trans (List.suffix_cons c t), hMatch⟩
    | zero =>
      rw [spansFrom] at h
      split at h
      · next n hMatch => exact ⟨prev, c :: t, List.suffix_refl _, by simp [hMatch]⟩
      · obtain ⟨before, u, hu, hMatch⟩ := ih h
        exact ⟨before, u, hu.trans (List.suffix_cons c t), hMatch⟩

/-- A match that is listed stands somewhere in the text. -/
theorem exists_of_spans {m : Option Char → Text → Option Nat} {t : Text} (h : spans m t ≠ []) :
    ∃ before u, u <:+ t ∧ m before u ≠ none :=
  exists_of_spansFrom h

end Text

namespace Script

namespace MissingFunction

variable {f : MissingFunction} {line t : Text} {x : Char}

theorem callHere_ne_none {name : Text} (h : callHere name t ≠ none) : name <+: t := by
  rw [callHere] at h
  split at h
  · exact absurd rfl h
  · next r hr => exact ⟨r, (Text.after?_eq_some.mp hr).symm⟩

/-- A character that is not on the line is not in the name that is called there. -/
theorem not_mem_of_siteHere {prev : Option Char} (hx : x ∉ t) (hName : x ∉ globalObject ++ ['.'])
    (h : f.siteHere prev t ≠ none) : x ∉ f.reference := by
  rw [siteHere] at h
  split at h
  · next hGlobal =>
    have hObject : f.object = globalObject := by simpa [isGlobal] using hGlobal
    have hFunction : x ∉ f.function := by
      split at h
      · exact absurd rfl h
      · cases hQualified : callHere (globalObject ++ ['.'] ++ f.function) t with
        | some n =>
          have hPrefix := callHere_ne_none (t := t) (by rw [hQualified]; simp)
          intro hMem
          exact hx (hPrefix.subset (List.mem_append_right _ hMem))
        | none =>
          rw [hQualified, Option.orElse_none] at h
          intro hMem
          exact hx ((callHere_ne_none h).subset hMem)
    rw [reference, hObject]
    exact fun hMem => (List.mem_append.mp hMem).elim hName hFunction
  · split at h
    · exact absurd rfl h
    · split at h
      · next r hr =>
        have hText := Text.after?_eq_some.mp hr
        intro hMem
        exact hx (by rw [hText]; exact List.mem_append_left _ hMem)
      · exact absurd rfl h

/-- A function that is called on a line is spelled without line feeds. -/
theorem not_mem_reference (hLine : '\n' ∉ line) (h : f.isCalledOn line = true) :
    '\n' ∉ f.reference := by
  have hSites : f.sites line ≠ [] := by
    intro hNil
    rw [isCalledOn, hNil] at h
    simp at h
  obtain ⟨before, u, hu, hMatch⟩ := Text.exists_of_spans hSites
  exact not_mem_of_siteHere (fun hMem => hLine (hu.subset hMem)) (by decide) hMatch

/-- The lines that are listed are those that hold a call site. -/
theorem mem_callLines {lines : List Text} {n : Nat} :
    n ∈ f.callLines lines ↔ 1 ≤ n ∧ ∃ line, lines[n - 1]? = some line ∧
      f.isCalledOn line = true := by
  rw [callLines, List.mem_filterMap]
  constructor
  · rintro ⟨⟨line, k⟩, hMem, hCalled⟩
    dsimp only at hCalled
    split at hCalled
    · next hHere =>
      rw [Option.some.injEq] at hCalled
      subst hCalled
      obtain ⟨hFrom, hLine⟩ := List.mk_mem_zipIdx_iff_le_and_getElem?_sub.mp hMem
      exact ⟨hFrom, line, hLine, hHere⟩
    · simp at hCalled
  · rintro ⟨hFrom, line, hLine, hCalled⟩
    refine ⟨(line, n), List.mk_mem_zipIdx_iff_le_and_getElem?_sub.mpr ⟨hFrom, hLine⟩, ?_⟩
    dsimp only
    rw [if_pos hCalled]

end MissingFunction

end Script

end SketchRepair
