import SketchRepair.Proofs.Patch.Line
import SketchRepair.Proofs.Script.Closing
import SketchRepair.Proofs.Text.FirstOccurrence
import SketchRepair.Proofs.Text.Lines

/-!
# SketchRepair — lines that are mended on the spot

A patch that does not show what a line holds still serves to mend the line, if a
parenthesis on it has no partner. The place is told by the line alone: a `)` is put in
before the first `;` or at the end, or the last one is taken out. That is not always where
it helps. A `)` before the first `;` comes too early if the parenthesis stands behind it,
and the last one may close another parenthesis than the stray one would.

* `MendedLine` — what is done to the line, and where;
* `Helps` — that it helps there;
* `exists_lone_on_line` — a line with a fault holds a parenthesis without a partner;
* `patch_mends_by_fault` — **what becomes of the script, and when it has fewer faults**.
-/

namespace SketchRepair

namespace Patch

open Script (Lone ParenFault ParenIssue isShader loneCount parenIssues)
open Text (IsLine)

/-- A line that is mended: the fault, the line, what stands before the place at which a
parenthesis is put in or taken out, and the new line. -/
inductive MendedLine : (fault : ParenFault) → (line x new : Text) → Prop where
  /-- A `)` is put in before the first `;` of a line that ends with one. -/
  | beforeSemicolon {x y : Text} (hFirst : ';' ∉ x)
      (hEnd : Text.endsWith [';'] (Text.trim (x ++ ';' :: y)) = true) :
      MendedLine .missingClose (x ++ ';' :: y) x (x ++ ')' :: ';' :: y)
  /-- A `)` is put to the end of another line. -/
  | atEnd {line : Text} (hEnd : Text.endsWith [';'] (Text.trim line) = false) :
      MendedLine .missingClose line line (line ++ [')'])
  /-- The last `)` is taken out. -/
  | dropped {x y : Text} (hLast : ')' ∉ y) : MendedLine .extraClose (x ++ ')' :: y) x (x ++ y)

/-- At this place of the script a `)` more, or one less, does away with a parenthesis that
has no partner: one that is open before it, or a stray one from there on. -/
def Helps (source : Text) (place : Nat) : ParenFault → Prop
  | .missingClose => ∃ k < place, Lone '(' source k
  | .extraClose => ∃ k, place ≤ k ∧ Lone ')' source k

variable {threshold : Float} {source line new front rest a b x : Text} {p : LinePatch} {i : Nat}
  {fault : ParenFault}

-- ---------------------------------------------------------------------------
-- The line
-- ---------------------------------------------------------------------------

theorem mem_of_endsWith {c : Char} {t : Text} (h : Text.endsWith [c] (Text.trim t) = true) :
    c ∈ t := by
  have hReverse := (Text.startsWith_iff.mp h).subset (List.mem_cons_self ..)
  exact (Text.isInfix_trim t).subset (List.mem_reverse.mp hReverse)

/-- A `)` is put in before the first `;`. -/
theorem replaceFirst_semicolon {x y : Text} (hFirst : ';' ∉ x) :
    Text.replaceFirst [';'] [')', ';'] (x ++ ';' :: y) = x ++ ')' :: ';' :: y := by
  suffices hReplace : Text.replaceFirst [';'] [')', ';'] (x ++ [';'] ++ y) = x ++ [')', ';'] ++ y by
    simpa using hReplace
  refine Text.replaceFirst_of_first fun a b hText => ?_
  by_contra hBefore
  have hPrefix : a ++ [';'] <+: x := by
    refine List.prefix_of_prefix_length_le ⟨b, hText.symm⟩ ?_ ?_
    · rw [List.append_assoc]
      exact List.prefix_append ..
    · rw [List.length_append, List.length_singleton]
      omega
  exact hFirst (hPrefix.subset (by simp))

/-- A line with a `)` to take out, if one is to be taken out, is mended at one place. -/
theorem exists_mendedLine (line : Text) (hClose : fault = .extraClose → ')' ∈ line) :
    ∃ x, MendedLine fault line x (mendLine line fault) := by
  cases fault with
  | missingClose =>
    rw [mendLine]
    cases hEnd : Text.endsWith [';'] (Text.trim line) with
    | false => exact ⟨line, .atEnd hEnd⟩
    | true =>
      obtain ⟨x, y, rfl, hFirst⟩ := List.eq_append_cons_of_mem (mem_of_endsWith hEnd)
      rw [if_pos rfl, replaceFirst_semicolon hFirst]
      exact ⟨x, .beforeSemicolon hFirst hEnd⟩
  | extraClose =>
    obtain ⟨behind, before, hReverse, hLast⟩ :=
      List.eq_append_cons_of_mem (List.mem_reverse.mpr (hClose rfl))
    have hLine : line = before.reverse ++ ')' :: behind.reverse := by
      rw [← List.reverse_reverse line, hReverse]
      simp
    rw [mendLine, dropLastClose, Text.upTo?_eq_some.mpr ⟨hReverse, hLast⟩]
    dsimp only
    rw [hLine]
    exact ⟨_, .dropped (by simpa using hLast)⟩

/-- A line that does not end with `;` is mended at its end. -/
theorem MendedLine.eq_line (h : MendedLine .missingClose line x new)
    (hEnd : Text.endsWith [';'] (Text.trim line) = false) : x = line := by
  cases h with
  | beforeSemicolon _ hSemicolon => exact absurd (hSemicolon.symm.trans hEnd) (by simp)
  | atEnd _ => rfl

/-- A line with a fault holds a parenthesis without a partner. -/
theorem exists_lone_on_line (hShader : isShader source = false)
    (hSource : source = front ++ (line ++ rest)) (hLine : IsLine front line rest)
    (hFault : faultOn source (parenIssues source) ((front.count '\n' : Nat) + 1) = some fault) :
    ∃ x y, line = x ++ fault.char :: y ∧ Lone fault.char source (front ++ x).length := by
  obtain ⟨⟨f, index⟩, hFind, rfl⟩ := Option.map_eq_some_iff.mp hFault
  obtain ⟨k, rfl, hLone⟩ :=
    (Script.mem_parenIssues_iff hShader).mp (List.mem_of_find?_eq_some hFind)
  obtain ⟨hk, hChar⟩ := List.getElem?_eq_some_iff.mp hLone.1
  have hText : front ++ (line ++ rest) = source.take k ++ f.char :: source.drop (k + 1) := by
    rw [← hSource, ← hChar, ← List.drop_eq_getElem_cons hk, List.take_append_drop]
  have hNumber : (source.take k).count '\n' = front.count '\n' := by
    have hHere := List.find?_some hFind
    rw [decide_eq_true_eq, Text.position, Text.lineAt, Int.toNat_natCast] at hHere
    dsimp only at hHere
    omega
  have hBreak : f.char ≠ '\n' := by cases f <;> decide
  obtain ⟨x, y, hx, hFront⟩ := hLine.split hText hBreak hNumber
  refine ⟨x, y, hx, ?_⟩
  rwa [← hFront, List.length_take_of_le hk.le]

-- ---------------------------------------------------------------------------
-- The script
-- ---------------------------------------------------------------------------

/-- A script becomes shader code only by a `)` that is taken out. -/
theorem MendedLine.eq_extraClose_of_isShader (h : MendedLine fault line x new)
    (hShader : isShader (front ++ (line ++ rest)) = false)
    (hAfter : isShader (front ++ (new ++ rest)) = true) : fault = .extraClose := by
  have hInsert (a b : Text) (hSource : front ++ (line ++ rest) = a ++ b)
      (hNew : front ++ (new ++ rest) = a ++ ')' :: b) : fault = .extraClose := by
    rw [hSource] at hShader
    rw [hNew, (Script.mended_insert b a).isShader_eq_false hShader] at hAfter
    exact absurd hAfter (by simp)
  cases h with
  | @beforeSemicolon x y _ _ =>
    exact hInsert (front ++ x) (';' :: (y ++ rest)) (by simp) (by simp)
  | atEnd _ => exact hInsert (front ++ line) rest (by simp) (by simp)
  | dropped _ => rfl

/-- Faults are fewer behind the edit exactly if it helps. -/
theorem MendedLine.length_lt_iff (h : MendedLine fault line x new)
    (hShader : isShader (front ++ (line ++ rest)) = false)
    (hAfter : isShader (front ++ (new ++ rest)) = false) :
    (parenIssues (front ++ (new ++ rest))).length < (parenIssues (front ++ (line ++ rest))).length ↔
      Helps (front ++ (line ++ rest)) (front ++ x).length fault := by
  rw [Script.length_parenIssues hAfter, Script.length_parenIssues hShader]
  cases h with
  | @beforeSemicolon x y _ _ =>
    have hInsert := Script.insert_close_lt_iff (front ++ x) (';' :: (y ++ rest))
    simpa [Helps] using hInsert
  | atEnd _ =>
    have hInsert := Script.insert_close_lt_iff (front ++ line) rest
    simpa [Helps] using hInsert
  | @dropped x y _ =>
    have hDelete := Script.delete_close_lt_iff (front ++ x) (y ++ rest)
    simpa [Helps] using hDelete

/-- A script that becomes shader code has no fault left. -/
theorem MendedLine.fewer_iff (h : MendedLine fault line x new)
    (hShader : isShader (front ++ (line ++ rest)) = false)
    (hFault : ∃ k, Lone fault.char (front ++ (line ++ rest)) k) :
    (parenIssues (front ++ (new ++ rest))).length < (parenIssues (front ++ (line ++ rest))).length ↔
      isShader (front ++ (new ++ rest)) = true ∨
        Helps (front ++ (line ++ rest)) (front ++ x).length fault := by
  obtain ⟨k, hLone⟩ := hFault
  have hSome : 0 < (parenIssues (front ++ (line ++ rest))).length :=
    List.length_pos_of_mem ((Script.mem_parenIssues_iff hShader).mpr ⟨k, rfl, hLone⟩)
  cases hAfter : isShader (front ++ (new ++ rest)) with
  | true =>
    rw [parenIssues, hAfter, if_pos rfl]
    exact iff_of_true hSome (.inl rfl)
  | false =>
    rw [h.length_lt_iff hShader hAfter]
    simp

/-- Behind the edit there is one fault more, or one less. -/
theorem MendedLine.length_eq (h : MendedLine fault line x new)
    (hShader : isShader (front ++ (line ++ rest)) = false)
    (hAfter : isShader (front ++ (new ++ rest)) = false) :
    (parenIssues (front ++ (new ++ rest))).length + 1 =
        (parenIssues (front ++ (line ++ rest))).length ∨
      (parenIssues (front ++ (new ++ rest))).length =
        (parenIssues (front ++ (line ++ rest))).length + 1 := by
  rw [Script.length_parenIssues hAfter, Script.length_parenIssues hShader]
  cases h with
  | @beforeSemicolon x y _ _ =>
    have hEdit := Script.loneCount_edit (c := ')') rfl (front ++ x) (';' :: (y ++ rest)) 0
    simp at hEdit ⊢
    omega
  | atEnd _ =>
    have hEdit := Script.loneCount_edit (c := ')') rfl (front ++ line) rest 0
    simp at hEdit ⊢
    omega
  | @dropped x y _ =>
    have hEdit := Script.loneCount_edit (c := ')') rfl (front ++ x) (y ++ rest) 0
    simp at hEdit ⊢
    omega

/-- A line that is mended by its fault is a line of the script that is edited. -/
theorem content_of_fault (hSource : source = front ++ (line ++ rest)) (hLine : IsLine front line rest)
    (hNumber : p.line = (front.count '\n' : Nat) + 1)
    (hExpected : (!p.expected.isEmpty && Text.has p.expected line) = false)
    (hSimilar : ¬ threshold < similarity line p.expected)
    (hFault : faultOn source (parenIssues source) p.line = some fault) :
    let outcome := applyLinePatches threshold source [p] (parenIssues source)
    outcome.applied = [p] ∧ outcome.content = front ++ (mendLine line fault ++ rest) := by
  obtain ⟨above, below, hAbove, hLines, hNew⟩ := hLine.exists_lines
  rw [← hSource] at hLines
  have hPatched : patchLine threshold (faultOn source (parenIssues source) p.line) p line =
      .ok (mendLine line fault) := by
    unfold patchLine
    rw [hExpected, if_neg (by simp), if_neg hSimilar, hFault]
  have hAt : (Text.lines source)[above.length]? = some line := by
    rw [hLines, List.getElem?_append_right le_rfl, Nat.sub_self]
    rfl
  dsimp only
  rw [applyLinePatches, applyPatches_of_ok (hAbove ▸ hNumber) hAt hPatched]
  refine ⟨rfl, ?_⟩
  rw [LineOutcome.content, applyPatches, hLines, ← hNew (mendLine line fault)]
  simp

/-- **A line that is mended on the spot.** A patch whose expected text is neither on its line
nor similar to it mends the line by its first fault. The script then has one fault more, or
one less, if it has not become shader code, which happens only when a `)` is taken out. It has
fewer faults exactly if it has become shader code, or if the edit helps where it is made. To
put a `)` to the end of a line always helps. -/
theorem patch_mends_by_fault (hShader : isShader source = false)
    (hAt : (Text.lines source)[i]? = some line) (hNumber : p.line = i + 1)
    (hExpected : (!p.expected.isEmpty && Text.has p.expected line) = false)
    (hSimilar : ¬ threshold < similarity line p.expected)
    (hFault : faultOn source (parenIssues source) p.line = some fault) :
    ∃ front x new rest, source = front ++ (line ++ rest) ∧ IsLine front line rest ∧
      front.count '\n' = i ∧ MendedLine fault line x new ∧
      let outcome := applyLinePatches threshold source [p] (parenIssues source)
      let before := (parenIssues source).length
      let after := (parenIssues outcome.content).length
      outcome.applied = [p] ∧ outcome.content = front ++ (new ++ rest) ∧
        (isShader outcome.content = true → fault = .extraClose) ∧
        (isShader outcome.content = false → after + 1 = before ∨ after = before + 1) ∧
        (after < before ↔
          isShader outcome.content = true ∨ Helps source (front ++ x).length fault) ∧
        (fault = .missingClose → Text.endsWith [';'] (Text.trim line) = false → after < before) := by
  obtain ⟨front, rest, hSource, hLine, hCount⟩ := Text.exists_isLine_of_getElem? hAt
  have hOnLine : p.line = (front.count '\n' : Nat) + 1 := by rw [hCount]; exact hNumber
  obtain ⟨u, v, hFaulty, hLone⟩ :=
    exists_lone_on_line hShader hSource hLine (hOnLine ▸ hFault)
  have hClose : fault = .extraClose → ')' ∈ line := by
    rintro rfl
    rw [hFaulty]
    exact List.mem_append_right u (List.mem_cons_self ..)
  obtain ⟨x, hMended⟩ := exists_mendedLine line hClose
  obtain ⟨hApplied, hContent⟩ :=
    content_of_fault hSource hLine hOnLine hExpected hSimilar hFault
  have hFewer := hMended.fewer_iff (hSource ▸ hShader) ⟨_, hSource ▸ hLone⟩
  rw [← hSource] at hFewer
  refine ⟨front, x, mendLine line fault, rest, hSource, hLine, hCount, hMended, hApplied, hContent,
    ?_, ?_, ?_, ?_⟩
  all_goals rw [hContent]
  · exact hMended.eq_extraClose_of_isShader (hSource ▸ hShader)
  · intro hAfter
    have hOne := hMended.length_eq (hSource ▸ hShader) hAfter
    rwa [← hSource] at hOne
  · exact hFewer
  · rintro rfl hEnd
    refine hFewer.mpr (.inr ⟨_, ?_, hLone⟩)
    rw [hMended.eq_line hEnd, hFaulty]
    simp

/-- A patch that shows nothing of what the first line holds. -/
def strangePatch : LinePatch := ⟨1, "zz".toList, "q".toList, []⟩

/-- Two calls that are left open, each on its line. -/
def openCalls : Text := "f(g(1)\nh(2;".toList

/-- The first call is closed at the end of its line, and one fault is left. -/
theorem patch_mends_by_fault_openCalls : isShader openCalls = false ∧
    (Text.lines openCalls)[0]? = some "f(g(1)".toList ∧
    (!strangePatch.expected.isEmpty && Text.has strangePatch.expected "f(g(1)".toList) = false ∧
    ¬ (0.7 : Float) < similarity "f(g(1)".toList strangePatch.expected ∧
    faultOn openCalls (parenIssues openCalls) strangePatch.line = some .missingClose ∧
    (parenIssues (applyLinePatches 0.7 openCalls [strangePatch] (parenIssues openCalls)).content).length
      < (parenIssues openCalls).length := by
  have hShader : isShader openCalls = false := by decide
  have hAt : (Text.lines openCalls)[0]? = some "f(g(1)".toList := by decide
  have hExpected :
      (!strangePatch.expected.isEmpty && Text.has strangePatch.expected "f(g(1)".toList) = false := by
    decide
  have hSimilar : ¬ (0.7 : Float) < similarity "f(g(1)".toList strangePatch.expected := by
    decide +kernel
  have hFault : faultOn openCalls (parenIssues openCalls) strangePatch.line = some .missingClose := by
    decide
  obtain ⟨front, x, new, rest, -, -, -, -, -, -, -, -, -, hAtEnd⟩ :=
    patch_mends_by_fault hShader hAt rfl hExpected hSimilar hFault
  exact ⟨hShader, hAt, hExpected, hSimilar, hFault, hAtEnd rfl (by decide)⟩

/-- A call that is left open behind a `;`. -/
def openBehind : Text := "a; f(b;".toList

/-- The `)` before the first `;` comes too early for it: behind the patch that mends the line
there is one fault more. -/
theorem mended_too_early : isShader openBehind = false ∧
    (Text.lines openBehind)[0]? = some openBehind ∧
    (!strangePatch.expected.isEmpty && Text.has strangePatch.expected openBehind) = false ∧
    ¬ (0.7 : Float) < similarity openBehind strangePatch.expected ∧
    faultOn openBehind (parenIssues openBehind) strangePatch.line = some .missingClose ∧
    (applyLinePatches 0.7 openBehind [strangePatch] (parenIssues openBehind)).content =
      "a); f(b;".toList ∧
    (parenIssues openBehind).length = 1 ∧ (parenIssues "a); f(b;".toList).length = 2 :=
  ⟨by decide, by decide, by decide, by decide +kernel, by decide, by decide +kernel, by decide,
    by decide⟩

end Patch

end SketchRepair
