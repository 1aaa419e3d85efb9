import SketchRepair.Proofs.Answer.Unreadable
import SketchRepair.Proofs.Json.Ends
import SketchRepair.Proofs.Text.Occurrence

/-!
# SketchRepair — answers that are JSON as a whole

The best answer of all is plain JSON, with nothing around it. Yet the whole of an answer
is read last: before that, a block between fences and a bare array of objects are tried,
and either may be a mere fragment of the answer, out of one of its texts or from among
its fields. A bare array that is the answer as a whole is found as such. So arrays are
safe when bare arrays are tried first, and otherwise what counts is what the fragments
denote.

* `bareArray?_of_framed` — a framed text is found between blanks;
* `bareArray?_of_objects` — an array of objects is found as a whole;
* `array?_eq_fragments` — what comes of an answer that has items as a whole;
* `array?_of_whole` — when these are the items of the answer.
-/

namespace SketchRepair

namespace Answer

-- ---------------------------------------------------------------------------
-- The bare array
-- ---------------------------------------------------------------------------

theorem opensArray_append {core : Text} (hCore : Json.Framed core) (behind : Text) :
    opensArray (core ++ behind) = true := by
  obtain ⟨gap, rest, hGap, rfl⟩ := hCore.opens
  have hSkip : (gap ++ '\x7b' :: (rest ++ behind)).dropWhile isBlank =
      '\x7b' :: (rest ++ behind) := by
    rw [List.dropWhile_append_of_pos fun c hc => Json.isBlank_of_isSpace (hGap c hc),
      List.dropWhile_cons_of_neg (by decide)]
  show decide (((gap ++ '\x7b' :: rest ++ behind).dropWhile isBlank).head? = some '\x7b') = true
  rw [List.append_assoc, List.cons_append, hSkip]
  rfl

theorem closesArray_of_ne {c : Char} (h : c ≠ '\x7d') (t : Text) : closesArray (c :: t) = none := by
  unfold closesArray
  split
  · next heq => exact absurd (List.cons.inj heq).1 h
  · rfl

/-- Where no brace stands, no array of objects ends. -/
theorem lastArrayEnd?_append_of_not_mem {u : Text} (h : '\x7d' ∉ u) (t : Text) :
    lastArrayEnd? (u ++ t) = (lastArrayEnd? t).map (u.length + ·) := by
  induction u with
  | nil => simp
  | cons c u ih =>
    rw [List.mem_cons, not_or] at h
    rw [List.cons_append, lastArrayEnd?, ih h.2]
    cases lastArrayEnd? t with
    | none => exact closesArray_of_ne (Ne.symm h.1) _
    | some n =>
      simp only [Option.map_some, List.length_cons, Option.some.injEq]
      omega

theorem lastArrayEnd?_of_not_mem {t : Text} (h : '\x7d' ∉ t) : lastArrayEnd? t = none := by
  rw [← List.append_nil t, lastArrayEnd?_append_of_not_mem h]
  rfl

theorem lastArrayEnd?_append {t : Text} {n : Nat} (before : Text) (h : lastArrayEnd? t = some n) :
    lastArrayEnd? (before ++ t) = some (before.length + n) := by
  induction before with
  | nil => simpa using h
  | cons c before ih =>
    rw [List.cons_append, lastArrayEnd?, ih, List.length_cons]
    simp only [Option.some.injEq]
    omega

/-- A framed text ends last, if nothing ends behind it. -/
theorem lastArrayEnd?_framed {core : Text} (hCore : Json.Framed core) {behind : Text}
    (hBehind : lastArrayEnd? behind = none) :
    lastArrayEnd? (core ++ behind) = some core.length := by
  obtain ⟨before, gap, hGap, rfl⟩ := hCore.closes
  have hBlank : ∀ c ∈ gap, isBlank c = true := fun c hc => Json.isBlank_of_isSpace (hGap c hc)
  have hNone : lastArrayEnd? (gap ++ ']' :: behind) = none := by
    have hGapEnd : '\x7d' ∉ gap ++ [']'] := by
      rw [List.mem_append, List.mem_singleton]
      rintro (hMem | hMem)
      · exact absurd (hBlank _ hMem) (by decide)
      · simp at hMem
    rw [← List.singleton_append, ← List.append_assoc, lastArrayEnd?_append_of_not_mem hGapEnd,
      hBehind, Option.map_none]
  have hGapEnd : (gap ++ ']' :: behind).takeWhile isBlank = gap := by
    rw [List.takeWhile_append_of_pos hBlank, List.takeWhile_cons_of_neg (by decide),
      List.append_nil]
  have hEnd : lastArrayEnd? ('\x7d' :: (gap ++ ']' :: behind)) = some (gap.length + 2) := by
    rw [lastArrayEnd?, hNone]
    simp only [closesArray, hGapEnd, List.drop_left, List.head?_cons, if_true]
  have hWhole := lastArrayEnd?_append before hEnd
  simpa using hWhole

/-- Between blanks, a framed text is the bare array. -/
theorem bareArray?_of_framed {core before behind : Text} (hCore : Json.Framed core)
    (hBefore : ∀ c ∈ before, isBlank c = true) (hBehind : ∀ c ∈ behind, isBlank c = true) :
    bareArray? (before ++ (core ++ behind)) = some core := by
  have hSearch : Text.search (fun t => if opensArray t then some t else none)
      (before ++ (core ++ behind)) = some (before, core ++ behind) := by
    rw [Text.search_eq_some_iff]
    refine ⟨core ++ behind, rfl, by rw [opensArray_append hCore]; rfl, ?_⟩
    intro s hs hne
    obtain ⟨c, s, rfl⟩ := List.exists_cons_of_ne_nil hne
    -- a blank is no bracket
    have hc : isBlank c = true := hBefore c (hs.subset (List.mem_cons_self ..))
    have hOpens : opensArray (c :: s ++ (core ++ behind)) = false := by
      unfold opensArray
      split
      · next heq =>
        rw [List.cons_append, List.cons.injEq] at heq
        rw [heq.1] at hc
        exact absurd hc (by decide)
      · rfl
    rw [hOpens]
    rfl
  have hNone : lastArrayEnd? behind = none :=
    lastArrayEnd?_of_not_mem fun hMem => absurd (hBehind _ hMem) (by decide)
  rw [bareArray?, hSearch]
  dsimp only
  rw [lastArrayEnd?_framed hCore hNone, Option.map_some, List.take_left]

/-- An array of objects is found as the whole of the answer. -/
theorem bareArray?_of_objects {answer : Text} {items : List Json}
    (h : Json.parse (Text.trim answer) = .ok (.arr items)) (hItems : items ≠ [])
    (hObjects : ∀ v ∈ items, v.isObject = true) :
    bareArray? answer = some (Text.trim answer) := by
  obtain ⟨before, core, behind, hBefore, hBehind, hTrim, hCore⟩ :=
    Json.framed_of_parse h hItems hObjects
  -- the blanks at the two ends of a trimmed text are none
  obtain rfl : before = [] := by
    cases before with
    | nil => rfl
    | cons c before =>
      have hSolid := Text.isBlank_of_head?_trim (t := answer) (c := c) (by rw [hTrim]; rfl)
      rw [Json.isBlank_of_isSpace (hBefore c (List.mem_cons_self ..))] at hSolid
      simp at hSolid
  obtain rfl : behind = [] := by
    rcases List.eq_nil_or_concat behind with rfl | ⟨gap, c, rfl⟩
    · rfl
    · have hSolid := Text.isBlank_of_getLast?_trim (t := answer) (c := c) (by simp [hTrim])
      rw [Json.isBlank_of_isSpace (hBehind c (by simp))] at hSolid
      simp at hSolid
  rw [List.nil_append, List.append_nil] at hTrim
  obtain ⟨lead, trail, hLead, hTrail, hAnswer⟩ := Text.exists_blanks_trim answer
  have hFound := bareArray?_of_framed hCore hLead hTrail
  rwa [← hTrim, ← List.append_assoc, ← hAnswer] at hFound

-- ---------------------------------------------------------------------------
-- The items of an answer
-- ---------------------------------------------------------------------------

/-- The items that a value stands for: those of an array of objects, or a single object. -/
inductive StandsFor : Json → List Json → Prop where
  | array {items : List Json} (hItems : items ≠ []) (hObjects : ∀ v ∈ items, v.isObject = true) :
      StandsFor (.arr items) items
  | object {fields : List (Text × Json)} : StandsFor (.obj fields) [.obj fields]

/-- The fragments of an answer that are tried before the whole of it, in their order. -/
def fragments (bareFirst : Bool) (answer : Text) : List Text :=
  if bareFirst then (bareArray? answer).toList ++ (fencedText? answer).toList
  else (fencedText? answer).toList ++ (bareArray? answer).toList

/-- What is found, or the given items when nothing is. -/
def foundOr (items : List Json) :
    Except Abort (Option (List Json)) → Except Abort (Option (List Json))
  | .ok none => .ok (some items)
  | found => found

/-- Nothing other than these items is found. -/
def Spares (items : List Json) (found : Except Abort (Option (List Json))) : Prop :=
  found = .ok none ∨ found = .ok (some items)

variable {answer : Text} {v : Json} {items : List Json} {found : Except Abort (Option (List Json))}

theorem items?_of_standsFor {t : Text} (h : Json.parse t = .ok v) (hItems : StandsFor v items) :
    items? t = .ok (some items) := by
  rw [items?, h]
  cases hItems <;> rfl

theorem candidates_eq (h : Json.parse (Text.trim answer) = .ok v) (bareFirst : Bool) :
    candidates bareFirst answer = fragments bareFirst answer ++ [Text.trim answer] := by
  have hAnswer : answer.isEmpty = false := by
    cases answer with
    | nil => exact absurd (h.symm.trans (by rfl : Json.parse [] = .error (.malformed 0))) (by simp)
    | cons c t => rfl
  rw [candidates, hAnswer]
  cases bareFirst <;> rfl

theorem foundOr_eq_iff : foundOr items found = .ok (some items) ↔ Spares items found := by
  unfold Spares
  match found with
  | .ok none => simp [foundOr]
  | .ok (some others) => simp [foundOr]
  | .error e => simp [foundOr]

theorem spares_foundOr_iff : Spares items (foundOr items found) ↔ Spares items found := by
  rw [← foundOr_eq_iff, ← foundOr_eq_iff]
  match found with
  | .ok none | .ok (some others) | .error e => rfl

theorem firstItems_append_of_some {ts us : List Text} (h : firstItems us = .ok (some items)) :
    firstItems (ts ++ us) = foundOr items (firstItems ts) := by
  rw [firstItems_append, h]
  match firstItems ts with
  | .ok none | .ok (some others) | .error e => rfl

/-- An answer that stands for items as a whole has them, unless a fragment of it
denotes others or is refused. -/
theorem array?_eq_fragments (h : Json.parse (Text.trim answer) = .ok v)
    (hItems : StandsFor v items) (bareFirst : Bool) :
    array? bareFirst answer = foundOr items (firstItems (fragments bareFirst answer)) := by
  rw [array?_eq, candidates_eq h]
  refine firstItems_append_of_some ?_
  exact (firstItems_toList (some (Text.trim answer))).trans (items?_of_standsFor h hItems)

theorem fencedItems?_eq (answer : Text) :
    fencedItems? answer = firstItems (fencedText? answer).toList := by
  rw [firstItems_toList]
  unfold fencedItems? fencedText?
  cases fencedBlock? (dropLabel ["json".toList]) answer <;> rfl

/-- Where neither a fence stands nor an array of objects begins, there is no fragment. -/
theorem fencedText?_of_not_infix (h : ¬ fence <:+: answer) : fencedText? answer = none := by
  have hNone : Text.cut? fence answer = none := by
    rw [← Text.has_iff, Text.has, Option.isSome_iff_ne_none, ne_eq, not_not] at h
    exact h
  rw [fencedText?, fencedBlock?, hNone]

theorem bareArray?_of_not_opens (h : ∀ s, s <:+ answer → opensArray s = false) :
    bareArray? answer = none := by
  have hNone : Text.search (fun t => if opensArray t then some t else none) answer = none := by
    rw [Text.search_eq_none_iff]
    intro s hs
    rw [h s hs]
    rfl
  rw [bareArray?, hNone]

/--
**An answer that is JSON as a whole.** When the answer, but for the blanks around it, is
an array of objects that is not empty, or a single object,

1. the items of an array are those of the answer when bare arrays are tried first,
   whatever stands in its texts;
2. when fenced blocks are tried first, they are exactly if the first block that stands
   between fences denotes nothing, or the same;
3. for an array or an object, and in both orders, the items are those of the answer
   exactly if the first fragment that denotes anything denotes the same;
4. so without fences an array is always read as it stands, and an object is when besides
   no array of objects begins in the answer.
-/
theorem array?_of_whole (h : Json.parse (Text.trim answer) = .ok v) (hItems : StandsFor v items) :
    (v.isObject = false → array? true answer = .ok (some items)) ∧
    (v.isObject = false →
      (array? false answer = .ok (some items) ↔ Spares items (fencedItems? answer))) ∧
    (∀ bareFirst, array? bareFirst answer = .ok (some items) ↔
      Spares items (firstItems (fragments bareFirst answer))) ∧
    (¬ fence <:+: answer →
      (v.isObject = true → ∀ s, s <:+ answer → opensArray s = false) →
      ∀ bareFirst, array? bareFirst answer = .ok (some items)) := by
  have hIff (bareFirst : Bool) : array? bareFirst answer = .ok (some items) ↔
      Spares items (firstItems (fragments bareFirst answer)) := by
    rw [array?_eq_fragments h hItems, foundOr_eq_iff]
  have hWhole := items?_of_standsFor h hItems
  have hBare : v.isObject = false → bareArray? answer = some (Text.trim answer) := by
    intro hArray
    cases hItems with
    | object => simp [Json.isObject] at hArray
    | array hNonempty hObjects => exact bareArray?_of_objects h hNonempty hObjects
  have hFragment (hArray : v.isObject = false) :
      firstItems (bareArray? answer).toList = .ok (some items) := by
    rw [hBare hArray]
    exact (firstItems_toList _).trans hWhole
  have hBareFirst (hArray : v.isObject = false) : array? true answer = .ok (some items) := by
    rw [hIff, fragments, if_pos rfl, firstItems_append, hFragment hArray]
    exact .inr rfl
  have hFencedFirst (hArray : v.isObject = false) :
      array? false answer = .ok (some items) ↔ Spares items (fencedItems? answer) := by
    rw [hIff, fragments, if_neg (by simp), firstItems_append_of_some (hFragment hArray),
      spares_foundOr_iff, fencedItems?_eq]
  refine ⟨hBareFirst, hFencedFirst, hIff, ?_⟩
  intro hFence hOpens bareFirst
  have hFenced := fencedText?_of_not_infix hFence
  cases hKind : v.isObject with
  | false =>
    cases bareFirst with
    | true => exact hBareFirst hKind
    | false =>
      rw [hFencedFirst hKind, fencedItems?_eq, hFenced]
      exact .inl rfl
  | true =>
    rw [hIff, fragments, hFenced, bareArray?_of_not_opens (hOpens hKind)]
    cases bareFirst <;> exact .inl rfl

/-- An array of one object, in whose text an empty array stands between fences. -/
def fenceInText : Text := "[\x7b\"fixed\": \"```[]```\"\x7d]".toList

/-- The one item of `fenceInText`. -/
def fencedItem : Json := .obj [("fixed".toList, .str "```[]```".toList)]

/-- What stands between the fences is taken for the answer when it is tried first. -/
theorem array?_of_whole_fenceInText :
    array? true fenceInText = .ok (some [fencedItem]) ∧
      array? false fenceInText ≠ .ok (some [fencedItem]) := by
  have hParse : Json.parse (Text.trim fenceInText) = .ok (.arr [fencedItem]) := by cbv
  have hStandsFor : StandsFor (.arr [fencedItem]) [fencedItem] :=
    .array (by simp) (by simp [fencedItem, Json.isObject])
  obtain ⟨hBareFirst, hFencedFirst, -⟩ := array?_of_whole hParse hStandsFor
  refine ⟨hBareFirst rfl, ?_⟩
  have hFenced : fencedItems? fenceInText = .ok (some []) := by cbv
  rw [ne_eq, hFencedFirst rfl, hFenced, Spares]
  simp

end Answer

end SketchRepair
