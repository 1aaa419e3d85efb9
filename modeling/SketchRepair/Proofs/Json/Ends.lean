import SketchRepair.Proofs.Json.Grammar
import SketchRepair.Text.Blank

/-!
# SketchRepair — how arrays of objects begin and end

An object stands between its braces, and the items of an array between its brackets.
So the text of an array of objects begins with a bracket and a brace and ends with a
brace and a bracket, and between the two of them stand blanks at most.

* `Written.ends` — how objects, items that are objects, and fields end;
* `framed_of_parse` — the text of an array of objects.
-/

namespace SketchRepair

namespace Json

/-- Is the value an object? -/
def isObject : Json → Bool
  | obj _ => true
  | _ => false

/-- Is the value an array or an object? -/
def isCompound : Json → Bool
  | arr _ => true
  | obj _ => true
  | _ => false

theorem isCompound_of_isObject {v : Json} (h : v.isObject = true) : v.isCompound = true := by
  cases v with
  | obj => rfl
  | _ => simp [isObject] at h

theorem isBlank_of_isSpace {c : Char} (h : isSpace c = true) : isBlank c = true := by
  simp only [isSpace, Bool.or_eq_true, decide_eq_true_eq] at h
  rcases h with ((rfl | rfl) | rfl) | rfl <;> rfl

variable {t r used : Text}

/-- A word or a number holds no other value. -/
theorem isCompound_of_readScalar {v : Json} (h : readScalar t = .ok (v, r)) :
    v.isCompound = false := by
  have hWords : ∀ entry ∈ words, entry.2.isCompound = false := by simp [words, isCompound]
  unfold readScalar at h
  split at h
  · next reading hWord =>
    obtain ⟨⟨w, u⟩, hMem, hAfter⟩ := List.exists_of_findSome?_eq_some hWord
    obtain ⟨rest, -, rfl⟩ := Option.map_eq_some_iff.mp hAfter
    simp only [Except.ok.injEq, Prod.mk.injEq] at h
    exact h.1 ▸ hWords _ hMem
  · cases hNumber : readNumber t with
    | error e => simp [hNumber, Except.map] at h
    | ok found =>
      simp only [hNumber, Except.map, Except.ok.injEq, Prod.mk.injEq] at h
      rw [← h.1]
      rfl

theorem IsScalar.isCompound_eq_false {v : Json} (h : IsScalar v used) : v.isCompound = false :=
  isCompound_of_readScalar (h.reads [] (Stops.nil _))

/-- Where the text of an object, of items that are objects, or of fields begins and ends. -/
def Part.Ends (used : Text) : Part → Prop
  | .value v => v.isObject = true → ∃ inside, used = '\x7b' :: inside ++ ['\x7d']
  | .items vs => (∀ v ∈ vs, v.isObject = true) →
      ∃ inside gap, Spaces gap ∧ used = '\x7b' :: inside ++ '\x7d' :: gap ++ [']']
  | .fields _ _ => ∃ inside, used = inside ++ ['\x7d']

theorem Written.ends {part : Part} (h : Written part used) : part.Ends used := by
  induction h with
  | text hText => exact nofun
  | scalar hScalar =>
    intro hObject
    have hCompound := isCompound_of_isObject hObject
    rw [hScalar.isCompound_eq_false] at hCompound
    simp at hCompound
  | @noFields gap hGap => exact fun _ => ⟨gap, rfl⟩
  | @object fields gap inside hGap hInside ih =>
    obtain ⟨rest, rfl⟩ := ih
    exact fun _ => ⟨gap ++ rest, by simp⟩
  | noItems hGap => exact nofun
  | array hGap hInside ih => exact nofun
  | @lastItem v used gap hValue hGap ih =>
    intro hObjects
    obtain ⟨inside, rfl⟩ := ih (hObjects v (List.mem_singleton_self v))
    exact ⟨inside, gap, hGap, by simp⟩
  | @item v vs used gap gap' more hValue hGap hGap' hMore ih ihMore =>
    intro hObjects
    obtain ⟨inside, rfl⟩ := ih (hObjects v (List.mem_cons_self ..))
    obtain ⟨inside', last, hLast, rfl⟩ := ihMore fun u hu => hObjects u (List.mem_cons_of_mem v hu)
    exact ⟨inside ++ '\x7d' :: gap ++ ',' :: gap' ++ '\x7b' :: inside', last, hLast, by simp⟩
  | @lastField before v name lead used gap hLabel hValue hGap ih =>
    exact ⟨lead ++ used ++ gap, by simp⟩
  | @field before all v name lead used gap gap' more hLabel hValue hGap hGap' hMore ih ihMore =>
    obtain ⟨rest, rfl⟩ := ihMore
    exact ⟨lead ++ used ++ gap ++ ',' :: gap' ++ rest, by simp⟩

/-- A text in the frame of an array of objects. -/
structure Framed (t : Text) : Prop where
  opens : ∃ gap behind, Spaces gap ∧ t = '[' :: gap ++ '\x7b' :: behind
  closes : ∃ before gap, Spaces gap ∧ t = before ++ '\x7d' :: gap ++ [']']

/-- An array of objects is written in a frame. -/
theorem Written.framed {items : List Json} (h : Written (.value (.arr items)) used)
    (hItems : items ≠ []) (hObjects : ∀ v ∈ items, v.isObject = true) : Framed used := by
  cases h with
  | scalar hScalar => exact absurd hScalar.isCompound_eq_false (by simp [isCompound])
  | noItems hGap => exact absurd rfl hItems
  | @array _ gap _ hGap hInside =>
    obtain ⟨inside, gap', hGap', rfl⟩ := hInside.ends hObjects
    exact ⟨⟨gap, inside ++ '\x7d' :: gap' ++ [']'], hGap, by simp⟩,
      ⟨'[' :: gap ++ '\x7b' :: inside, gap', hGap', by simp⟩⟩

/-- The text of an array of objects is framed, but for blanks around it. -/
theorem framed_of_parse {items : List Json} (h : parse t = .ok (.arr items)) (hItems : items ≠ [])
    (hObjects : ∀ v ∈ items, v.isObject = true) :
    ∃ before core behind, Spaces before ∧ Spaces behind ∧ t = before ++ core ++ behind ∧
      Framed core := by
  obtain ⟨before, used, behind, rfl, hBefore, hBehind, hWritten⟩ := parse_eq_ok_iff.mp h
  exact ⟨before, used, behind, hBefore, hBehind, (List.append_assoc ..).symm,
    hWritten.framed hItems hObjects⟩

end Json

end SketchRepair
