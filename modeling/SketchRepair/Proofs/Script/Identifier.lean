import SketchRepair.Proofs.Script.Name
import SketchRepair.Proofs.Text.Lines
import SketchRepair.Proofs.Text.Scan

/-!
# SketchRepair — words and identifiers

A name is searched for as a word, but what a script calls by a name is an identifier. The
two differ by `$`, which belongs to identifiers and not to words. A name that begins or
ends with `$` is not found where it is an identifier; and next to a `$` a name is found
that is part of a longer one.

* `StandsAt`, `IsWhole` — a word, and a whole identifier;
* `mem_occurrences`, `exists_mem_of_standsAt` — what is listed, and what it covers;
* `standsBetween_iff_of_isWhole`, `isWhole_iff_of_standsBetween` — words and identifiers;
* `mem_places_of_isWhole` — an identifier that is a word is listed;
* `guardFirst_line` — the first word of a script is the first one of its line.
-/

namespace SketchRepair

namespace Script

/-- The name is a word at this offset of the script. -/
def StandsAt (name script : Text) (i : Nat) : Prop :=
  ∃ a b, script = a ++ name ++ b ∧ a.length = i ∧ StandsBetween name a b

/-- Is a neighbouring character, which may be missing, part of an identifier? -/
def isIdentifierAt (c : Option Char) : Bool := c.any isIdentifier

/-- A run of identifier characters between these texts goes no further. -/
def IsWhole (a b : Text) : Prop :=
  isIdentifierAt a.getLast? = false ∧ isIdentifierAt b.head? = false

/-- The offsets at which a script holds the name as a word, as they are listed. -/
def places (name script : Text) : List Nat := (occurrences name script).map Prod.fst

variable {name script a b front line rest : Text} {i : Nat}

-- ---------------------------------------------------------------------------
-- What is listed
-- ---------------------------------------------------------------------------

theorem nameHere_eq_some {prev : Option Char} {t : Text} {n : Nat}
    (h : nameHere name prev t = some n) : n = name.length ∧ name <+: t := by
  rw [nameHere] at h
  split at h
  · simp at h
  · next rest hAfter =>
    obtain ⟨-, hLength⟩ := Option.ite_none_right_eq_some.mp h
    exact ⟨(Option.some.inj hLength).symm, rest, (Text.after?_eq_some.mp hAfter).symm⟩

theorem solid_nameHere (hName : name ≠ []) : Text.Solid (nameHere name) where
  pos h := (nameHere_eq_some h).1 ▸ List.length_pos_iff.mpr hName
  le h := (nameHere_eq_some h).1 ▸ (nameHere_eq_some h).2.length_le

/-- What is listed is a word, as long as the name. -/
theorem mem_occurrences (hName : name ≠ []) {s : Nat × Nat} (h : s ∈ occurrences name script) :
    s.2 = s.1 + name.length ∧ StandsAt name script s.1 := by
  obtain ⟨-, x, y, z, hText, hStart, hStop, -, hHere⟩ :=
    (Text.spans_scan (solid_nameHere hName) script).sound s h
  rw [List.nil_append] at hText
  have hLength := (nameHere_eq_some hHere).1
  obtain ⟨b, hRest, hBoundaries⟩ :=
    (nameHere_ne_none_iff hName).mp (by rw [hHere]; exact Option.some_ne_none _)
  exact ⟨by rw [hStop, hLength], x, b, by rw [hText, hRest, List.append_assoc], hStart, hBoundaries⟩

theorem standsAt_of_mem_places (hName : name ≠ []) (h : i ∈ places name script) :
    StandsAt name script i := by
  obtain ⟨s, hs, rfl⟩ := List.mem_map.mp h
  exact (mem_occurrences hName hs).2

theorem standsBetween_of_mem_places (hName : name ≠ [])
    (h : a.length ∈ places name (a ++ name ++ b)) : StandsBetween name a b := by
  obtain ⟨x, y, hText, hLength, hBoundaries⟩ := standsAt_of_mem_places hName h
  obtain ⟨hSame, rfl⟩ := List.append_inj hText (by simp [hLength])
  rwa [List.append_cancel_right hSame]

/-- Every word begins within one that is listed. -/
theorem exists_mem_of_standsAt (hName : name ≠ []) (h : StandsAt name script i) :
    ∃ j ∈ places name script, j ≤ i ∧ i < j + name.length := by
  obtain ⟨a, b, rfl, rfl, hBoundaries⟩ := h
  have hHere : nameHere name a.getLast? (name ++ b) ≠ none :=
    (nameHere_ne_none_iff hName).mpr ⟨b, rfl, hBoundaries⟩
  obtain ⟨s, hs, hFrom, hTo⟩ := (Text.spans_scan (solid_nameHere hName) _).covers a (name ++ b)
    (List.append_assoc ..) (Nat.zero_le _) hHere
  exact ⟨s.1, List.mem_map_of_mem hs, hFrom, (mem_occurrences hName hs).1 ▸ hTo⟩

/-- What is listed does not overlap, and is in order. -/
theorem ordered_places (hName : name ≠ []) (script : Text) :
    (places name script).Pairwise fun i j => i + name.length ≤ j := by
  refine List.pairwise_map.mpr
    ((Text.spans_scan (solid_nameHere hName) script).ordered.imp_of_mem fun hs _ hOrder => ?_)
  exact (mem_occurrences hName hs).1 ▸ hOrder

/-- What is listed first is the first word. -/
theorem le_of_standsAt (hName : name ≠ []) {later : List Nat} (h : places name script = i :: later)
    {k : Nat} (hk : StandsAt name script k) : i ≤ k := by
  obtain ⟨j, hj, hFrom, -⟩ := exists_mem_of_standsAt hName hk
  have hOrder := ordered_places hName script
  rw [h] at hj hOrder
  rcases List.mem_cons.mp hj with rfl | hj
  · exact hFrom
  · exact (Nat.le_of_add_right_le ((List.pairwise_cons.mp hOrder).1 j hj)).trans hFrom

/-- A script mentions a name if the name is listed. -/
theorem mentions_eq_true_iff (hName : name ≠ []) :
    mentions name script = true ↔ ∃ i, StandsAt name script i := by
  rw [mentions_iff hName]
  constructor
  · rintro ⟨a, b, hText, hBoundaries⟩
    exact ⟨a.length, a, b, hText, rfl, hBoundaries⟩
  · rintro ⟨-, a, b, hText, -, hBoundaries⟩
    exact ⟨a, b, hText, hBoundaries⟩

-- ---------------------------------------------------------------------------
-- Words and identifiers
-- ---------------------------------------------------------------------------

section Seam

variable {outer inner : Option Char} {c : Char}

theorem isBoundary_comm (outer inner : Option Char) :
    isBoundary outer inner = isBoundary inner outer := by
  rw [isBoundary, isBoundary, bne_comm]

theorem isWordAt_eq_false_of_isIdentifierAt (h : isIdentifierAt outer = false) :
    isWordAt outer = false := by
  cases outer with
  | none => rfl
  | some c => exact (Bool.or_eq_false_iff.mp h).1

/-- Of the identifier characters `$` alone is no word character. -/
theorem isWord_iff_of_isIdentifier (hc : isIdentifier c = true) :
    isWord c = true ↔ some c ≠ some '$' := by
  rw [isIdentifier, Bool.or_eq_true, beq_iff_eq] at hc
  rw [Ne, Option.some.injEq]
  constructor
  · rintro hWord rfl
    exact absurd hWord (by decide)
  · exact hc.resolve_right

/-- Where an identifier ends, a word ends if it does not end with `$`. -/
theorem isBoundary_iff_of_isIdentifierAt (hc : isIdentifier c = true)
    (h : isIdentifierAt outer = false) : isBoundary outer (some c) = true ↔ some c ≠ some '$' := by
  rw [isBoundary, isWordAt_eq_false_of_isIdentifierAt h, Bool.false_bne]
  exact isWord_iff_of_isIdentifier hc

/-- Where a word ends, an identifier ends if there is no `$` on either side. -/
theorem isIdentifierAt_iff_of_isBoundary (hc : isIdentifier c = true)
    (h : isBoundary outer (some c) = true) :
    isIdentifierAt outer = false ↔ some c ≠ some '$' ∧ outer ≠ some '$' := by
  constructor
  · intro hOuter
    refine ⟨(isBoundary_iff_of_isIdentifierAt hc hOuter).mp h, ?_⟩
    rintro rfl
    exact absurd hOuter (by decide)
  · rintro ⟨hInner, hOuter⟩
    cases outer with
    | none => rfl
    | some d =>
      rw [isBoundary, show isWordAt (some c) = true from (isWord_iff_of_isIdentifier hc).mpr hInner,
        Bool.bne_true, Bool.not_eq_true'] at h
      exact Bool.or_eq_false_iff.mpr ⟨h, by simpa using hOuter⟩

end Seam

/-- A name that is a whole identifier is a word if there is no `$` at its ends. -/
theorem standsBetween_iff_of_isWhole (hName : name ≠ [])
    (hChars : ∀ c ∈ name, isIdentifier c = true) (h : IsWhole a b) :
    StandsBetween name a b ↔ name.head? ≠ some '$' ∧ name.getLast? ≠ some '$' := by
  rw [StandsBetween, List.head?_eq_some_head hName, List.getLast?_eq_some_getLast hName,
    isBoundary_iff_of_isIdentifierAt (hChars _ (List.head_mem hName)) h.1, isBoundary_comm,
    isBoundary_iff_of_isIdentifierAt (hChars _ (List.getLast_mem hName)) h.2]

/-- A name that is a word is a whole identifier if there is no `$` at its ends, nor next to
them. -/
theorem isWhole_iff_of_standsBetween (hName : name ≠ [])
    (hChars : ∀ c ∈ name, isIdentifier c = true) (h : StandsBetween name a b) :
    IsWhole a b ↔ (name.head? ≠ some '$' ∧ name.getLast? ≠ some '$') ∧
      (a.getLast? ≠ some '$' ∧ b.head? ≠ some '$') := by
  rw [StandsBetween, List.head?_eq_some_head hName, List.getLast?_eq_some_getLast hName,
    isBoundary_comm (some _)] at h
  rw [IsWhole, isIdentifierAt_iff_of_isBoundary (hChars _ (List.head_mem hName)) h.1,
    isIdentifierAt_iff_of_isBoundary (hChars _ (List.getLast_mem hName)) h.2,
    List.head?_eq_some_head hName, List.getLast?_eq_some_getLast hName, and_and_and_comm]

/-- A whole identifier that is a word is listed: no word begins before it and goes on in it. -/
theorem mem_places_of_isWhole (hName : name ≠ []) (hChars : ∀ c ∈ name, isIdentifier c = true)
    (hWhole : IsWhole a b) (h : StandsBetween name a b) :
    a.length ∈ places name (a ++ name ++ b) := by
  obtain ⟨j, hj, hFrom, hTo⟩ := exists_mem_of_standsAt hName ⟨a, b, rfl, rfl, h⟩
  obtain ⟨x, y, hText, rfl, -⟩ := standsAt_of_mem_places hName hj
  have hxa : x <+: a := by
    refine List.prefix_of_prefix_length_le ?_ ((List.prefix_append a name).trans
      (List.prefix_append _ b)) hFrom
    rw [hText, List.append_assoc]
    exact List.prefix_append ..
  obtain ⟨u, rfl⟩ := hxa
  rw [List.append_assoc, List.append_assoc, List.append_assoc, List.append_cancel_left_eq] at hText
  have hu : u <+: name := by
    refine List.prefix_of_prefix_length_le (hText ▸ List.prefix_append ..) (List.prefix_append ..) ?_
    rw [List.length_append] at hTo
    omega
  rcases List.eq_nil_or_concat u with rfl | ⟨u, c, rfl⟩
  · rwa [List.append_nil] at hj ⊢
  · -- the last character before the identifier would be one of the name
    have hc : isIdentifier c = true := hChars c (hu.subset (by simp))
    have hNone := hWhole.1
    rw [List.concat_eq_append, ← List.append_assoc, List.getLast?_concat] at hNone
    exact absurd hc (Bool.eq_false_iff.mp hNone)

-- ---------------------------------------------------------------------------
-- One line
-- ---------------------------------------------------------------------------

/-- A line ends words as a script does. -/
theorem standsBetween_line (h : Text.IsLine front line rest) :
    StandsBetween name (front ++ a) (b ++ rest) ↔ StandsBetween name a b := by
  have hBreak : isWord '\n' = false := by decide
  have hFront : isWordAt (front ++ a).getLast? = isWordAt a.getLast? := by
    rcases h.begins with rfl | ⟨f, rfl⟩
    · rfl
    · rw [List.append_assoc, List.singleton_append]
      exact isWordAt_getLast?_append_cons hBreak f a
  have hRest : isWordAt (b ++ rest).head? = isWordAt b.head? := by
    rcases h.ends with rfl | ⟨r, rfl⟩
    · rw [List.append_nil]
    · exact isWordAt_head?_append_cons hBreak b r
  simp only [StandsBetween, isBoundary, hFront, hRest]

/-- The first word of a script gives way in its line. -/
theorem guardFirst_line (hName : name ≠ []) (hLine : Text.IsLine front (a ++ name ++ b) rest)
    {later : List Nat}
    (h : places name (front ++ (a ++ name ++ b ++ rest)) = (front ++ a).length :: later)
    (new : Text) : guardFirst name new (a ++ name ++ b) = a ++ new ++ b := by
  have hScript : front ++ (a ++ name ++ b ++ rest) = front ++ a ++ name ++ (b ++ rest) := by simp
  have hHere : StandsAt name (a ++ name ++ b) a.length := by
    refine ⟨a, b, rfl, rfl, (standsBetween_line hLine).mp ?_⟩
    rw [hScript] at h
    exact standsBetween_of_mem_places hName (h ▸ List.mem_cons_self ..)
  obtain ⟨k, hk, -⟩ := exists_mem_of_standsAt hName hHere
  obtain ⟨s, ss, hOccurrences⟩ :=
    List.exists_cons_of_ne_nil (List.ne_nil_of_mem (List.mem_map.mp hk).choose_spec.1)
  have hFirst : places name (a ++ name ++ b) = s.1 :: ss.map Prod.fst := by
    rw [places, hOccurrences, List.map_cons]
  obtain ⟨hStop, x, y, hText, hStart, hBoundaries⟩ :=
    mem_occurrences hName (hOccurrences ▸ List.mem_cons_self ..)
  -- no word of the line comes before the first word of the script
  have hNotBefore : a.length ≤ s.1 := by
    have hAgain : StandsAt name (front ++ (a ++ name ++ b ++ rest)) (front ++ x).length :=
      ⟨front ++ x, y ++ rest, by rw [hText]; simp, rfl, (standsBetween_line hLine).mpr hBoundaries⟩
    have hLe := le_of_standsAt hName h hAgain
    simp only [List.length_append] at hLe
    omega
  have hPlace : s.1 = a.length := Nat.le_antisymm (le_of_standsAt hName hFirst hHere) hNotBefore
  rw [guardFirst, hOccurrences]
  dsimp only
  rw [hStop, hPlace, ← List.length_append, List.drop_left, List.append_assoc a name,
    List.take_left]

end Script

end SketchRepair
