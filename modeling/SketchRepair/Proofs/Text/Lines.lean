import SketchRepair.Text.Basic

/-!
# SketchRepair — lines and what is made of them

A text is its lines joined, and the other way round: lines that hold no line feed
are the lines of the text they are joined to. As far as other characters go, a text
is the same as its lines one behind the other.

* `joinWith_concat`, `mem_joinWith` — pieces that are joined;
* `lines_unlines` — joining lines loses nothing;
* `filter_unlines`, `count_unlines` — line feeds do not matter to what they are
  no part of;
* `IsLine.exists_lines`, `exists_isLine`, `IsLine.unique` — one line of a text, and what is
  around it;
* `extent_eq`, `extent_lines` — how much room lines take, each with its end.
-/

namespace SketchRepair

namespace Text

variable {l t : Text} {ls : List Text}

theorem joinWith_cons_cons (sep l k : Text) (ls : List Text) :
    joinWith sep (l :: k :: ls) = l ++ sep ++ joinWith sep (k :: ls) := rfl

theorem joinWith_concat {sep : Text} (h : ls ≠ []) (l : Text) :
    joinWith sep (ls ++ [l]) = joinWith sep ls ++ sep ++ l := by
  induction ls with
  | nil => exact absurd rfl h
  | cons k ls ih =>
    cases ls with
    | nil => rfl
    | cons m ls =>
      have hRest := ih (List.cons_ne_nil m ls)
      rw [List.cons_append] at hRest
      rw [List.cons_append, List.cons_append, joinWith_cons_cons, joinWith_cons_cons, hRest]
      simp only [List.append_assoc]

/-- What is joined is made of the pieces and the separator. -/
theorem mem_joinWith {sep : Text} {c : Char} (h : c ∈ joinWith sep ls) :
    c ∈ sep ∨ ∃ l ∈ ls, c ∈ l := by
  induction ls with
  | nil => simp [joinWith] at h
  | cons l ls ih =>
    cases ls with
    | nil => exact .inr ⟨l, List.mem_cons_self .., h⟩
    | cons k ls =>
      rw [joinWith_cons_cons, List.mem_append, List.mem_append] at h
      rcases h with (hHere | hSep) | hRest
      · exact .inr ⟨l, List.mem_cons_self .., hHere⟩
      · exact .inl hSep
      · rcases ih hRest with hSep | ⟨m, hm, hc⟩
        · exact .inl hSep
        · exact .inr ⟨m, List.mem_cons_of_mem l hm, hc⟩

theorem unlines_cons_cons (l k : Text) (ls : List Text) :
    unlines (l :: k :: ls) = l ++ '\n' :: unlines (k :: ls) := by
  rw [unlines, joinWith_cons_cons, List.append_assoc]
  rfl

theorem lines_of_not_mem (h : '\n' ∉ l) : lines l = [l] := by
  induction l with
  | nil => rfl
  | cons c l ih =>
    rw [List.mem_cons, not_or] at h
    rw [lines, if_neg (fun hc => h.1 hc.symm), ih h.2]

/-- A line feed ends the lines before it. -/
theorem lines_append_cons (l t : Text) : lines (l ++ '\n' :: t) = lines l ++ lines t := by
  induction l with
  | nil => rfl
  | cons c l ih =>
    rw [List.cons_append]
    by_cases hc : c = '\n'
    · rw [lines, if_pos hc, lines, if_pos hc, ih, List.cons_append]
    · rw [lines, if_neg hc, lines, if_neg hc, ih]
      cases hLines : lines l with
      | nil => exact absurd hLines (lines_ne_nil l)
      | cons k ks => rfl

theorem lines_append_break (h : '\n' ∉ l) : lines (l ++ '\n' :: t) = l :: lines t := by
  rw [lines_append_cons, lines_of_not_mem h, List.singleton_append]

/-- Lines that are joined and cut anew fall apart at the line feeds in them. -/
theorem lines_unlines_eq (hNonempty : ls ≠ []) : lines (unlines ls) = ls.flatMap lines := by
  induction ls with
  | nil => exact absurd rfl hNonempty
  | cons l ls ih =>
    cases ls with
    | nil => rw [unlines, joinWith, List.flatMap_singleton]
    | cons k ls =>
      rw [unlines_cons_cons, lines_append_cons, ih (List.cons_ne_nil k ls)]
      rfl

/-- Whatever is put before a text, the lines below it are the same. -/
theorem exists_lines_below (behind : Text) : ∃ below, ∀ t, ∃ touched,
    touched.length = t.count '\n' + 1 ∧ lines (t ++ behind) = touched ++ below := by
  obtain ⟨first, below, hBehind⟩ := List.exists_cons_of_ne_nil (lines_ne_nil behind)
  refine ⟨below, fun t => ?_⟩
  induction t with
  | nil => exact ⟨[first], rfl, hBehind⟩
  | cons c t ih =>
    obtain ⟨touched, hLength, hLines⟩ := ih
    rw [List.cons_append]
    by_cases hc : c = '\n'
    · refine ⟨[] :: touched, ?_, ?_⟩
      · rw [List.length_cons, hLength, hc, List.count_cons_self]
      · rw [lines, if_pos hc, hLines, List.cons_append]
    · obtain ⟨l, touched, rfl⟩ := List.exists_cons_of_length_eq_add_one hLength
      refine ⟨(c :: l) :: touched, ?_, ?_⟩
      · rw [List.count_cons_of_ne hc, ← hLength, List.length_cons, List.length_cons]
      · rw [lines, if_neg hc, hLines, List.cons_append, List.cons_append]

/-- Whatever is put between two texts, the lines above and below it are the same. -/
theorem exists_lines_around (before behind : Text) : ∃ above below,
    above.length = before.count '\n' ∧ ∀ t, ∃ touched, touched.length = t.count '\n' + 1 ∧
      lines (before ++ (t ++ behind)) = above ++ (touched ++ below) := by
  induction before with
  | nil =>
    obtain ⟨below, h⟩ := exists_lines_below behind
    exact ⟨[], below, rfl, h⟩
  | cons c before ih =>
    obtain ⟨above, below, hAbove, h⟩ := ih
    by_cases hc : c = '\n'
    · refine ⟨[] :: above, below, ?_, fun t => ?_⟩
      · rw [List.length_cons, hAbove, hc, List.count_cons_self]
      · obtain ⟨touched, hLength, hLines⟩ := h t
        refine ⟨touched, hLength, ?_⟩
        rw [List.cons_append, lines, if_pos hc, hLines, List.cons_append]
    · cases above with
      | nil =>
        -- the first line is one of those that are touched
        refine ⟨[], below, ?_, fun t => ?_⟩
        · rw [List.count_cons_of_ne hc, ← hAbove]
        · obtain ⟨touched, hLength, hLines⟩ := h t
          obtain ⟨l, touched, rfl⟩ := List.exists_cons_of_length_eq_add_one hLength
          refine ⟨(c :: l) :: touched, hLength, ?_⟩
          rw [List.cons_append, lines, if_neg hc, hLines]
          rfl
      | cons l above =>
        refine ⟨(c :: l) :: above, below, ?_, fun t => ?_⟩
        · rw [List.count_cons_of_ne hc, ← hAbove, List.length_cons, List.length_cons]
        · obtain ⟨touched, hLength, hLines⟩ := h t
          refine ⟨touched, hLength, ?_⟩
          rw [List.cons_append, lines, if_neg hc, hLines]
          rfl

/-- Joining lines loses nothing. -/
theorem lines_unlines (hNonempty : ls ≠ []) (h : ∀ l ∈ ls, '\n' ∉ l) :
    lines (unlines ls) = ls := by
  induction ls with
  | nil => exact absurd rfl hNonempty
  | cons l ls ih =>
    have hl : '\n' ∉ l := h l (List.mem_cons_self ..)
    cases ls with
    | nil => exact lines_of_not_mem hl
    | cons k ls =>
      rw [unlines_cons_cons, lines_append_break hl,
        ih (by simp) fun m hm => h m (List.mem_cons_of_mem _ hm)]

/-- No line holds a line feed. -/
theorem not_mem_of_mem_lines : ∀ l ∈ lines t, '\n' ∉ l := by
  induction t with
  | nil =>
    intro l hl
    rw [lines, List.mem_singleton] at hl
    simp [hl]
  | cons c t ih =>
    intro l hl
    rw [lines] at hl
    split at hl
    · rcases List.mem_cons.mp hl with rfl | hl'
      · simp
      · exact ih l hl'
    · next hc =>
      split at hl
      · next hNil => exact absurd hNil (lines_ne_nil t)
      · next k ks hLines =>
        rw [hLines] at ih
        rcases List.mem_cons.mp hl with rfl | hl'
        · rw [List.mem_cons, not_or]
          exact ⟨fun h => hc h.symm, ih k (List.mem_cons_self ..)⟩
        · exact ih l (List.mem_cons_of_mem _ hl')

theorem filter_unlines {p : Char → Bool} (hp : p '\n' = false) (ls : List Text) :
    (unlines ls).filter p = ls.flatten.filter p := by
  induction ls with
  | nil => rfl
  | cons l ls ih =>
    cases ls with
    | nil => rw [List.flatten_singleton, unlines, joinWith]
    | cons k ls =>
      rw [unlines_cons_cons, List.flatten_cons, List.filter_append, List.filter_append,
        List.filter_cons_of_neg (by simp [hp]), ih]

theorem count_unlines {c : Char} (hc : c ≠ '\n') (ls : List Text) :
    (unlines ls).count c = ls.flatten.count c := by
  have hBreak : ('\n' == c) = false := by simpa using hc.symm
  have hCount (u : Text) : (u.filter fun x => x == c).count c = u.count c :=
    List.count_filter (beq_self_eq_true c)
  rw [← hCount, filter_unlines hBreak, hCount]

-- ---------------------------------------------------------------------------
-- One line
-- ---------------------------------------------------------------------------

theorem unlines_append {ks : List Text} (hLines : ls ≠ []) (hMore : ks ≠ []) :
    unlines (ls ++ ks) = unlines ls ++ '\n' :: unlines ks := by
  induction ls with
  | nil => exact absurd rfl hLines
  | cons l ls ih =>
    cases ls with
    | nil =>
      obtain ⟨k, ks, rfl⟩ := List.exists_cons_of_ne_nil hMore
      exact unlines_cons_cons l k ks
    | cons m ls =>
      rw [List.cons_append, List.cons_append, unlines_cons_cons, ← List.cons_append,
        ih (List.cons_ne_nil m ls), unlines_cons_cons, List.append_assoc, List.cons_append]

theorem length_lines (t : Text) : (lines t).length = t.count '\n' + 1 := by
  induction t with
  | nil => rfl
  | cons c t ih =>
    rw [lines]
    split
    · next hc => rw [hc, List.length_cons, ih, List.count_cons_self]
    · next hc =>
      rw [List.count_cons_of_ne hc, ← ih]
      split
      · next hNil => exact absurd hNil (lines_ne_nil t)
      · next hLines => rw [hLines, List.length_cons, List.length_cons]

/-- A line, between what stands before it and what stands behind it. -/
structure IsLine (front line rest : Text) : Prop where
  begins : front = [] ∨ ∃ f, front = f ++ ['\n']
  unbroken : '\n' ∉ line
  ends : rest = [] ∨ ∃ r, rest = '\n' :: r

/-- A line has its number, and can be exchanged among the lines. -/
theorem IsLine.exists_lines {front line rest : Text} (h : IsLine front line rest) :
    ∃ above below, above.length = front.count '\n' ∧
      lines (front ++ (line ++ rest)) = above ++ line :: below ∧
      ∀ new, unlines (above ++ new :: below) = front ++ (new ++ rest) := by
  obtain ⟨below, hBelow, hRest⟩ : ∃ below, lines (line ++ rest) = line :: below ∧
      ∀ new, unlines (new :: below) = new ++ rest := by
    rcases h.ends with rfl | ⟨r, rfl⟩
    · refine ⟨[], by rw [List.append_nil, lines_of_not_mem h.unbroken], fun new => ?_⟩
      rw [unlines, joinWith, List.append_nil]
    · refine ⟨lines r, lines_append_break h.unbroken, fun new => ?_⟩
      rw [← List.singleton_append, unlines_append (by simp) (lines_ne_nil r), unlines_lines]
      rfl
  rcases h.begins with rfl | ⟨f, rfl⟩
  · exact ⟨[], below, rfl, hBelow, hRest⟩
  · refine ⟨lines f, below, by simp [length_lines], ?_, fun new => ?_⟩
    · rw [List.append_assoc, List.singleton_append, lines_append_cons, hBelow]
    · rw [unlines_append (lines_ne_nil f) (by simp), unlines_lines, hRest, List.append_assoc]
      rfl

/-- The number of a line is how many line feeds stand before it. -/
theorem IsLine.getElem?_lines {front line rest : Text} (h : IsLine front line rest) :
    (lines (front ++ (line ++ rest)))[front.count '\n']? = some line := by
  obtain ⟨above, below, hNumber, hLines, -⟩ := h.exists_lines
  rw [hLines, ← hNumber, List.getElem?_append_right (Nat.le_refl _), Nat.sub_self,
    List.getElem?_cons_zero]

/-- Around every place there is a line. -/
theorem exists_isLine (before behind : Text) : ∃ front x y rest,
    before = front ++ x ∧ behind = y ++ rest ∧
      ∀ t, '\n' ∉ t → IsLine front (x ++ t ++ y) rest := by
  obtain ⟨front, x, rfl, hBegins, hx⟩ : ∃ front x, before = front ++ x ∧
      (front = [] ∨ ∃ f, front = f ++ ['\n']) ∧ '\n' ∉ x := by
    induction before with
    | nil => exact ⟨[], [], rfl, .inl rfl, by simp⟩
    | cons c before ih =>
      obtain ⟨front, x, rfl, hBegins, hx⟩ := ih
      rcases hBegins with rfl | ⟨f, rfl⟩
      · by_cases hc : c = '\n'
        · exact ⟨[c], x, rfl, .inr ⟨[], by rw [hc]; rfl⟩, hx⟩
        · exact ⟨[], c :: x, rfl, .inl rfl, by simp [hx, Ne.symm hc]⟩
      · exact ⟨c :: f ++ ['\n'], x, by simp, .inr ⟨c :: f, rfl⟩, hx⟩
  obtain ⟨y, rest, rfl, hEnds, hy⟩ : ∃ y rest, behind = y ++ rest ∧
      (rest = [] ∨ ∃ r, rest = '\n' :: r) ∧ '\n' ∉ y := by
    induction behind with
    | nil => exact ⟨[], [], rfl, .inl rfl, by simp⟩
    | cons c behind ih =>
      by_cases hc : c = '\n'
      · exact ⟨[], c :: behind, rfl, .inr ⟨behind, by rw [hc]⟩, by simp⟩
      · obtain ⟨y, rest, rfl, hEnds, hy⟩ := ih
        exact ⟨c :: y, rest, rfl, hEnds, by simp [hy, Ne.symm hc]⟩
  refine ⟨front, x, y, rest, rfl, rfl, fun t ht => ⟨hBegins, ?_, hEnds⟩⟩
  simp [hx, ht, hy]

/-- Every line of a text is one. -/
theorem exists_isLine_of_lines {line : Text} {above below : List Text}
    (h : lines t = above ++ line :: below) : ∃ front rest, t = front ++ (line ++ rest) ∧
      IsLine front line rest ∧ front.count '\n' = above.length := by
  have hUnbroken : ∀ l ∈ above ++ line :: below, '\n' ∉ l := h ▸ not_mem_of_mem_lines
  obtain ⟨rest, hEnds, hRest⟩ : ∃ rest, (rest = [] ∨ ∃ r, rest = '\n' :: r) ∧
      unlines (line :: below) = line ++ rest := by
    cases below with
    | nil => exact ⟨[], .inl rfl, (List.append_nil line).symm⟩
    | cons k below => exact ⟨_, .inr ⟨_, rfl⟩, unlines_cons_cons line k below⟩
  have hLine : '\n' ∉ line := hUnbroken line (by simp)
  cases hAbove : above with
  | nil =>
    refine ⟨[], rest, ?_, ⟨.inl rfl, hLine, hEnds⟩, rfl⟩
    rw [List.nil_append, ← hRest, ← unlines_lines t, h, hAbove, List.nil_append]
  | cons k ls =>
    have hSome : above ≠ [] := by rw [hAbove]; exact List.cons_ne_nil k ls
    refine ⟨unlines above ++ ['\n'], rest, ?_, ⟨.inr ⟨_, rfl⟩, hLine, hEnds⟩, ?_⟩
    · rw [← hRest, ← unlines_lines t, h, unlines_append hSome (by simp), List.append_assoc]
      rfl
    · have hNumber := length_lines (unlines above)
      rw [lines_unlines hSome fun l hl => hUnbroken l (List.mem_append_left _ hl)] at hNumber
      rw [List.count_append, ← hAbove, hNumber]
      rfl

theorem exists_isLine_of_getElem? {line : Text} {i : Nat} (h : (lines t)[i]? = some line) :
    ∃ front rest, t = front ++ (line ++ rest) ∧ IsLine front line rest ∧ front.count '\n' = i := by
  obtain ⟨hInside, hGet⟩ := List.getElem?_eq_some_iff.mp h
  have hLines : lines t = (lines t).take i ++ line :: (lines t).drop (i + 1) := by
    rw [← hGet, ← List.drop_eq_getElem_cons hInside, List.take_append_drop]
  have hLine := exists_isLine_of_lines hLines
  rwa [List.length_take_of_le (Nat.le_of_lt hInside)] at hLine

/-- There is one line with so many line feeds before it. -/
theorem IsLine.unique {front front' line line' rest rest' : Text} (h : IsLine front line rest)
    (h' : IsLine front' line' rest') (hText : front ++ (line ++ rest) = front' ++ (line' ++ rest'))
    (hCount : front.count '\n' = front'.count '\n') :
    front = front' ∧ line = line' ∧ rest = rest' := by
  have hFront {f w : Text} (hBegins : f ++ w = [] ∨ ∃ g, f ++ w = g ++ ['\n'])
      (hSame : f.count '\n' = (f ++ w).count '\n') : w = [] := by
    rcases List.eq_nil_or_concat w with rfl | ⟨w, c, rfl⟩
    · rfl
    rcases hBegins with hNil | ⟨g, hg⟩
    · simp at hNil
    · -- what is more ends with a line feed
      rw [List.concat_eq_append, ← List.append_assoc] at hg
      have hc := (List.cons.inj (List.append_inj' hg rfl).2).1
      rw [List.concat_eq_append, hc] at hSame
      simp at hSame
  have hLine {l w r : Text} (hEnds : w ++ r = [] ∨ ∃ u, w ++ r = '\n' :: u)
      (hUnbroken : '\n' ∉ l ++ w) : w = [] := by
    cases w with
    | nil => rfl
    | cons c w =>
      rcases hEnds with hNil | ⟨u, hu⟩
      · simp at hNil
      · rw [(List.cons.inj hu).1] at hUnbroken
        simp at hUnbroken
  obtain rfl : front = front' := by
    rcases List.append_eq_append_iff.mp hText with ⟨w, rfl, -⟩ | ⟨w, rfl, -⟩
    · rw [hFront h'.begins hCount, List.append_nil]
    · rw [hFront h.begins hCount.symm, List.append_nil]
  rcases List.append_eq_append_iff.mp (List.append_cancel_left hText) with
    ⟨w, rfl, rfl⟩ | ⟨w, rfl, rfl⟩
  · obtain rfl := hLine h.ends h'.unbroken
    exact ⟨rfl, (List.append_nil _).symm, rfl⟩
  · obtain rfl := hLine h'.ends h.unbroken
    exact ⟨rfl, List.append_nil _, rfl⟩

/-- A character that is as many line feeds from the beginning as a line is on that line. -/
theorem IsLine.split {front line rest u v : Text} {c : Char} (h : IsLine front line rest)
    (hText : front ++ (line ++ rest) = u ++ c :: v) (hc : c ≠ '\n')
    (hCount : u.count '\n' = front.count '\n') : ∃ x y, line = x ++ c :: y ∧ u = front ++ x := by
  have hBehind (w : Text) : rest ≠ c :: w := by
    rintro rfl
    rcases h.ends with hNil | ⟨r, hr⟩
    · simp at hNil
    · exact hc (List.cons.inj hr).1
  rcases List.append_eq_append_iff.mp hText with ⟨z, rfl, hz⟩ | ⟨z, rfl, hz⟩
  · rw [List.count_append, Nat.add_eq_left] at hCount
    rcases List.append_eq_append_iff.mp hz with ⟨w, rfl, hw⟩ | ⟨w, rfl, hw⟩
    · -- behind the line there is a line feed first
      cases w with
      | nil => exact absurd hw (hBehind v)
      | cons d w =>
        rcases h.ends with rfl | ⟨r, rfl⟩
        · simp at hw
        · rw [List.cons_append] at hw
          rw [← (List.cons.inj hw).1] at hCount
          simp at hCount
    · cases w with
      | nil => exact absurd hw.symm (hBehind v)
      | cons d w =>
        rw [List.cons_append] at hw
        exact ⟨z, w, by rw [(List.cons.inj hw).1], rfl⟩
  · rw [List.count_append, Nat.left_eq_add] at hCount
    rcases List.eq_nil_or_concat z with rfl | ⟨z, d, rfl⟩
    · cases line with
      | nil => exact absurd hz.symm (hBehind v)
      | cons d line => exact ⟨[], line, by rw [(List.cons.inj hz).1]; rfl, by simp⟩
    · -- before the line there is a line feed last
      rcases h.begins with hNil | ⟨f, hf⟩
      · simp at hNil
      · rw [List.concat_eq_append, ← List.append_assoc] at hf
        rw [List.concat_eq_append, (List.cons.inj (List.append_inj' hf rfl).2).1] at hCount
        simp at hCount

-- ---------------------------------------------------------------------------
-- Length
-- ---------------------------------------------------------------------------

/-- The room that lines take, each with a line feed behind it. -/
def extent : List Text → Nat
  | [] => 0
  | l :: ls => l.length + 1 + extent ls

@[simp] theorem extent_nil : extent [] = 0 := rfl

@[simp] theorem extent_cons (l : Text) (ls : List Text) :
    extent (l :: ls) = l.length + 1 + extent ls := rfl

@[simp] theorem extent_append (ls ks : List Text) : extent (ls ++ ks) = extent ls + extent ks := by
  induction ls with
  | nil => rw [List.nil_append, extent_nil, Nat.zero_add]
  | cons l ls ih =>
    rw [List.cons_append, extent_cons, extent_cons, ih]
    omega

theorem extent_eq (h : ls ≠ []) : extent ls = (unlines ls).length + 1 := by
  induction ls with
  | nil => exact absurd rfl h
  | cons l ls ih =>
    cases ls with
    | nil => rfl
    | cons k ls =>
      rw [extent_cons, ih (List.cons_ne_nil k ls), unlines_cons_cons, List.length_append,
        List.length_cons]
      omega

theorem length_unlines_le (ls : List Text) : (unlines ls).length ≤ extent ls := by
  cases ls with
  | nil => exact Nat.le_refl _
  | cons l ls =>
    rw [extent_eq (List.cons_ne_nil l ls)]
    omega

/-- One line more makes a text longer, if it is not empty. -/
theorem length_unlines_lt_cons (h : l ≠ []) (ls : List Text) :
    (unlines ls).length < (unlines (l :: ls)).length := by
  cases ls with
  | nil => exact List.length_pos_iff.mpr h
  | cons k ls =>
    rw [unlines_cons_cons, List.length_append, List.length_cons]
    omega

theorem extent_lines (t : Text) : extent (lines t) = t.length + 1 := by
  rw [extent_eq (lines_ne_nil t), unlines_lines]

/-- Lines with something before each take more room. -/
theorem extent_map_append (p : Text) (ls : List Text) :
    extent (ls.map (p ++ ·)) = extent ls + p.length * ls.length := by
  induction ls with
  | nil => rfl
  | cons l ls ih =>
    rw [List.map_cons, extent_cons, extent_cons, ih, List.length_append, List.length_cons,
      Nat.mul_succ]
    omega

end Text

end SketchRepair
