import Mathlib.Data.Nat.Find
import SketchRepair.Proofs.Script.Enclosing
import SketchRepair.Proofs.Text.Lines

/-!
# SketchRepair — which declarations run only under a condition

A declaration of a name is looked for line by line, and only the first one on a line
counts. What is reported is the earliest line on which that declaration stands in a block
that runs only under a condition, with the innermost such block around it. The scan goes
through the script once, from line to line, and takes what it knows along.

* `FirstDeclaration` — the first declaration of a name on a line, and where it stands;
* `declarationColumn?_eq_some_iff` — it is found;
* `read_append_of_break` — a line is read as the part of the script that it is;
* `conditionalFrom_eq_some_iff` — what is found on the lines from some place on;
* `conditionalDeclaration?_iff` — what is found in a script.
-/

namespace SketchRepair

namespace Script

variable {name script front line rest before behind t u v x y z : Text} {n i : Nat}
  {k : Keyword} {s : Scope} {prev prev' : Option Char} {d : ConditionalDeclaration}

-- ---------------------------------------------------------------------------
-- Declarations on a line
-- ---------------------------------------------------------------------------

/-- A declaration of the name begins here, behind the character `prev`: a word that declares
variables, blanks, and the name, with no more characters of an identifier behind it. -/
structure Declares (name : Text) (prev : Option Char) (t : Text) : Prop where
  starts : isWordAt prev = false
  declares : ∃ word ∈ declarators, ∃ gap rest, t = word ++ (gap ++ (name ++ rest)) ∧ gap ≠ [] ∧
    (∀ c ∈ gap, isBlank c = true) ∧ rest.head?.any isIdentifier = false

/-- The first declaration of the name on the line `x ++ y` stands behind `x`. -/
structure DeclaresFirst (name x y : Text) : Prop where
  declares : Declares name x.getLast? y
  first : ∀ x' y', x ++ y = x' ++ y' → Declares name x'.getLast? y' → x.length ≤ x'.length

theorem namedHere_iff : namedHere name t = true ↔
    ∃ rest, t = name ++ rest ∧ rest.head?.any isIdentifier = false := by
  simp [namedHere, Option.any_eq_true, Text.after?_eq_some]

theorem namedBehindBlanks_iff : namedBehindBlanks name t = true ↔
    ∃ gap rest, t = gap ++ (name ++ rest) ∧ gap ≠ [] ∧ (∀ c ∈ gap, isBlank c = true) ∧
      rest.head?.any isIdentifier = false := by
  induction t with
  | nil =>
    constructor
    · intro h
      simp [namedBehindBlanks] at h
    · rintro ⟨gap, rest, hText, hGap, -⟩
      exact absurd (List.append_eq_nil_iff.mp hText.symm).1 hGap
  | cons c t ih =>
    rw [namedBehindBlanks, Bool.and_eq_true, Bool.or_eq_true, namedHere_iff, ih]
    constructor
    · rintro ⟨hc, ⟨rest, rfl, hEnd⟩ | ⟨gap, rest, rfl, -, hGap, hEnd⟩⟩
      · exact ⟨[c], rest, rfl, List.cons_ne_nil _ _, List.forall_mem_singleton.mpr hc, hEnd⟩
      · exact ⟨c :: gap, rest, rfl, List.cons_ne_nil _ _, List.forall_mem_cons.mpr ⟨hc, hGap⟩, hEnd⟩
    · rintro ⟨gap, rest, hText, hSome, hGap, hEnd⟩
      obtain ⟨b, gap, rfl⟩ := List.exists_cons_of_ne_nil hSome
      obtain ⟨rfl, rfl⟩ := List.cons.inj hText
      obtain ⟨hc, hGap⟩ := List.forall_mem_cons.mp hGap
      refine ⟨hc, ?_⟩
      rcases List.eq_nil_or_concat gap with rfl | hMore
      · exact .inl ⟨rest, rfl, hEnd⟩
      · exact .inr ⟨gap, rest, rfl, by rintro rfl; simp at hMore, hGap, hEnd⟩

theorem declaresHere_iff : declaresHere name prev t = true ↔ Declares name prev t := by
  rw [declaresHere, Bool.and_eq_true, List.any_eq_true]
  constructor
  · rintro ⟨hPrev, word, hWord, hBehind⟩
    obtain ⟨behind, hAfter, hNamed⟩ := (Option.any_eq_true ..).mp hBehind
    obtain ⟨gap, rest, rfl, hSome, hGap, hEnd⟩ := namedBehindBlanks_iff.mp hNamed
    exact ⟨by simpa using hPrev, word, hWord, gap, rest, Text.after?_eq_some.mp hAfter, hSome, hGap,
      hEnd⟩
  · rintro ⟨hPrev, word, hWord, gap, rest, hText, hSome, hGap, hEnd⟩
    refine ⟨by simp [hPrev], word, hWord, ?_⟩
    rw [Text.after?_eq_some.mpr hText, Option.any_some]
    exact namedBehindBlanks_iff.mpr ⟨gap, rest, rfl, hSome, hGap, hEnd⟩

theorem not_declares_nil : ¬ Declares name prev [] := by
  rintro ⟨-, word, -, gap, rest, hText, hSome, -⟩
  exact hSome (List.append_eq_nil_iff.mp (List.append_eq_nil_iff.mp hText.symm).2).1

/-- The column of a declaration is looked for from some place on. -/
theorem head?_spansFrom_eq_some_iff (t : Text) : ∀ x : Text,
    ((Text.spansFrom (fun prev t => if declaresHere name prev t then some 0 else none)
        0 x.length x.getLast? t).head?).map (·.1) = some n ↔
      ∃ u y, t = u ++ y ∧ n = (x ++ u).length ∧ Declares name (x ++ u).getLast? y ∧
        ∀ u' y', t = u' ++ y' → Declares name (x ++ u').getLast? y' → u.length ≤ u'.length := by
  induction t with
  | nil =>
    intro x
    have hNone : declaresHere name x.getLast? [] = false :=
      Bool.eq_false_iff.mpr fun h => not_declares_nil (declaresHere_iff.mp h)
    simp only [Text.spansFrom, hNone]
    constructor
    · intro h
      simp at h
    · rintro ⟨u, y, hText, -, hDeclares, -⟩
      rw [(List.append_eq_nil_iff.mp hText.symm).2] at hDeclares
      exact absurd hDeclares not_declares_nil
  | cons c t ih =>
    intro x
    cases hHere : declaresHere name x.getLast? (c :: t) with
    | true =>
      simp only [Text.spansFrom, hHere, if_true, List.head?_cons, Option.map_some,
        Option.some.injEq]
      have hDeclares := declaresHere_iff.mp hHere
      constructor
      · rintro rfl
        refine ⟨[], c :: t, rfl, by rw [List.append_nil], by rwa [List.append_nil], ?_⟩
        exact fun _ _ _ _ => Nat.zero_le _
      · rintro ⟨u, y, -, rfl, -, hFirst⟩
        have hLength := hFirst [] (c :: t) rfl (by rwa [List.append_nil])
        rw [List.length_eq_zero_iff.mp (Nat.le_zero.mp hLength), List.append_nil]
    | false =>
      have hNot : ¬ Declares name x.getLast? (c :: t) := fun h =>
        Bool.false_ne_true (hHere.symm.trans (declaresHere_iff.mpr h))
      have hRest := ih (x ++ [c])
      rw [List.length_append, List.length_singleton, List.getLast?_concat] at hRest
      simp only [Text.spansFrom, hHere, Bool.false_eq_true, if_false]
      rw [hRest]
      simp only [List.append_assoc, List.singleton_append]
      constructor
      · rintro ⟨u, y, rfl, hn, hDeclares, hFirst⟩
        refine ⟨c :: u, y, rfl, hn, hDeclares, fun u' y' hText hDeclares' => ?_⟩
        rcases List.cons_eq_append_iff.mp hText with ⟨rfl, rfl⟩ | ⟨u', rfl, hBehind⟩
        · rw [List.append_nil] at hDeclares'
          exact absurd hDeclares' hNot
        · exact Nat.succ_le_succ (hFirst u' y' hBehind hDeclares')
      · rintro ⟨u, y, hText, hn, hDeclares, hFirst⟩
        rcases List.cons_eq_append_iff.mp hText with ⟨rfl, rfl⟩ | ⟨u, rfl, rfl⟩
        · rw [List.append_nil] at hDeclares
          exact absurd hDeclares hNot
        · exact ⟨u, y, rfl, hn, hDeclares, fun u' y' hText hDeclares' =>
            Nat.le_of_succ_le_succ (hFirst (c :: u') y' (by rw [hText]; rfl) hDeclares')⟩

/-- The column of the first declaration. -/
theorem declarationColumn?_eq_some_iff : declarationColumn? name line = some n ↔
    ∃ x y, line = x ++ y ∧ n = x.length ∧ DeclaresFirst name x y := by
  rw [declarationColumn?, Text.spans]
  refine (head?_spansFrom_eq_some_iff line []).trans ?_
  simp only [List.nil_append]
  constructor
  · rintro ⟨x, y, rfl, rfl, hDeclares, hFirst⟩
    exact ⟨x, y, rfl, rfl, hDeclares, hFirst⟩
  · rintro ⟨x, y, rfl, rfl, hDeclares, hFirst⟩
    exact ⟨x, y, rfl, rfl, hDeclares, hFirst⟩

-- ---------------------------------------------------------------------------
-- Lines
-- ---------------------------------------------------------------------------

/-- No keyword goes on over the end of a line. -/
theorem here?_append_of_break (hRest : rest = [] ∨ ∃ r, rest = '\n' :: r)
    (hPrev : isWordAt prev = isWordAt prev') (t : Text) :
    Keyword.here? prev (t ++ rest) = Keyword.here? prev' t := by
  have hCongr (k : Keyword) : k.Begins prev t ↔ k.Begins prev' t :=
    ⟨fun h => ⟨hPrev ▸ h.starts, h.ends⟩, fun h => ⟨hPrev ▸ h.starts, h.ends⟩⟩
  refine Option.ext fun k => ?_
  rw [Keyword.here?_eq_some_iff, Keyword.here?_eq_some_iff, ← hCongr]
  rcases hRest with rfl | ⟨r, rfl⟩
  · rw [List.append_nil]
  · exact Keyword.Begins.append_cons_iff (by decide)

/-- A line is read as the part of the script that it is. -/
theorem read_append_of_break (hRest : rest = [] ∨ ∃ r, rest = '\n' :: r)
    (hPrev : isWordAt prev = isWordAt prev') (hLength : n ≤ line.length) :
    s.read n prev (line ++ rest) = s.read n prev' line := by
  induction line generalizing n s prev prev' with
  | nil =>
    obtain rfl : n = 0 := Nat.le_zero.mp hLength
    rfl
  | cons c line ih =>
    cases n with
    | zero => rfl
    | succ n =>
      have hStep : s.step prev c (line ++ rest) = s.step prev' c line := by
        unfold Scope.step
        rw [← List.cons_append, here?_append_of_break hRest hPrev]
      rw [List.cons_append, Scope.read, Scope.read, hStep]
      exact ih rfl (Nat.le_of_succ_le_succ hLength)

/-- Nothing is to be known of a line feed. -/
theorem Scope.step_break (s : Scope) (prev : Option Char) (t : Text) : s.step prev '\n' t = s := by
  have hNone : Keyword.here? prev ('\n' :: t) = none := by
    by_contra hSome
    obtain ⟨k, hk⟩ := Option.ne_none_iff_exists'.mp hSome
    obtain ⟨c, r, hText, hWord⟩ := (Keyword.here?_eq_some_iff.mp hk).exists_isWord
    rw [← (List.cons.inj hText).1] at hWord
    exact absurd hWord (by decide)
  rw [Scope.step, hNone]
  rfl

theorem isWordAt_getLast?_of_isLine (h : Text.IsLine front line rest) :
    isWordAt front.getLast? = isWordAt none := by
  rcases h.begins with rfl | ⟨f, rfl⟩
  · rfl
  · rw [List.getLast?_concat]
    rfl

/-- Within a line the scan knows what there is to know. -/
theorem Describes.read_line (hs : Describes s front (line ++ rest))
    (hLine : Text.IsLine front line rest) (hSplit : line = x ++ y) :
    Describes (s.read x.length none line) (front ++ x) (y ++ rest) := by
  have hLength : x.length ≤ line.length := by
    rw [hSplit, List.length_append]
    exact Nat.le_add_right _ _
  rw [← read_append_of_break hLine.ends (isWordAt_getLast?_of_isLine hLine) hLength]
  rw [hSplit, List.append_assoc] at hs ⊢
  exact hs.read

/-- And it goes on with the next line. -/
theorem Describes.next (hs : Describes s front (line ++ '\n' :: t))
    (hLine : Text.IsLine front line ('\n' :: t)) :
    Describes (s.readLine line) (front ++ (line ++ ['\n'])) t := by
  have hNext := (hs.read_line hLine (List.append_nil line).symm).step
  rw [Scope.step_break, List.append_assoc] at hNext
  exact hNext

-- ---------------------------------------------------------------------------
-- Declarations of a script
-- ---------------------------------------------------------------------------

/-- On line `n` of the script, which is `line`, the first declaration of the name stands
between `before` and `behind`. -/
def FirstDeclaration (name script : Text) (n : Nat) (line before behind : Text) : Prop :=
  ∃ front x y rest, script = front ++ (line ++ rest) ∧ Text.IsLine front line rest ∧
    n = front.count '\n' + 1 ∧ line = x ++ y ∧ DeclaresFirst name x y ∧
    before = front ++ x ∧ behind = y ++ rest

/-- On line `n` of the script, which is `line`, the first declaration of the name stands in a
block that runs only under a condition; the innermost one has the keyword `k`. -/
def ConditionalOn (name script : Text) (n : Nat) (line : Text) (k : Keyword) : Prop :=
  ∃ before behind, FirstDeclaration name script n line before behind ∧
    InnermostConditional before behind k

/-- The first conditional declaration behind line `i`. -/
structure EarliestBehind (name script : Text) (i : Nat) (d : ConditionalDeclaration) : Prop where
  later : i < d.lineNumber
  declared : ConditionalOn name script d.lineNumber d.line d.block
  earliest : ∀ n line k, i < n → n < d.lineNumber → ¬ ConditionalOn name script n line k

theorem DeclaresFirst.unique {x' y' : Text} (h : DeclaresFirst name x y)
    (h' : DeclaresFirst name x' y') (hLine : x ++ y = x' ++ y') : x = x' ∧ y = y' :=
  List.append_inj hLine
    (Nat.le_antisymm (h.first x' y' hLine h'.declares) (h'.first x y hLine.symm h.declares))

/-- A declaration on a line that is known. -/
theorem firstDeclaration_iff {l : Text} (hLine : Text.IsLine front l rest) :
    FirstDeclaration name (front ++ (l ++ rest)) (front.count '\n' + 1) line before behind ↔
      line = l ∧ ∃ x y, l = x ++ y ∧ DeclaresFirst name x y ∧ before = front ++ x ∧
        behind = y ++ rest := by
  constructor
  · rintro ⟨front', x, y, rest', hText, hLine', hNumber, rfl, hFirst, rfl, rfl⟩
    obtain ⟨rfl, rfl, rfl⟩ := hLine.unique hLine' hText (Nat.add_right_cancel hNumber)
    exact ⟨rfl, x, y, rfl, hFirst, rfl, rfl⟩
  · rintro ⟨rfl, x, y, rfl, hFirst, rfl, rfl⟩
    exact ⟨front, x, y, rest, rfl, hLine, rfl, rfl, hFirst, rfl, rfl⟩

theorem FirstDeclaration.unique {line' before' behind' : Text}
    (h : FirstDeclaration name script n line before behind)
    (h' : FirstDeclaration name script n line' before' behind') : before = before' := by
  obtain ⟨front, x, y, rest, rfl, hLine, rfl, rfl, hFirst, rfl, rfl⟩ := h
  obtain ⟨-, x', y', hText, hFirst', rfl, rfl⟩ := (firstDeclaration_iff hLine).mp h'
  rw [(hFirst.unique hFirst' hText).1]

-- ---------------------------------------------------------------------------
-- The search
-- ---------------------------------------------------------------------------

/-- The keyword that is found on a line, where `s` is the scope before it. -/
def blockOn (name : Text) (s : Scope) (line : Text) : Option Keyword :=
  match declarationColumn? name line with
  | none => none
  | some col => (s.read col none line).conditional?

theorem conditionalFrom_cons (name : Text) (n : Nat) (s : Scope) (line : Text) (ls : List Text) :
    conditionalFrom name n s (line :: ls) =
      match blockOn name s line with
      | some k => some ⟨n, line, k⟩
      | none => conditionalFrom name (n + 1) (s.readLine line) ls := rfl

theorem conditionalOn_iff {l : Text} (hs : Describes s front (l ++ rest))
    (hLine : Text.IsLine front l rest) :
    ConditionalOn name (front ++ (l ++ rest)) (front.count '\n' + 1) line k ↔
      line = l ∧ blockOn name s l = some k := by
  constructor
  · rintro ⟨before, behind, hDeclaration, hInner⟩
    obtain ⟨rfl, x, y, hSplit, hFirst, rfl, rfl⟩ := (firstDeclaration_iff hLine).mp hDeclaration
    refine ⟨rfl, ?_⟩
    rw [blockOn, declarationColumn?_eq_some_iff.mpr ⟨x, y, hSplit, rfl, hFirst⟩]
    exact (hs.read_line hLine hSplit).conditional?_eq_some_iff.mpr hInner
  · rintro ⟨rfl, hBlock⟩
    unfold blockOn at hBlock
    split at hBlock
    · simp at hBlock
    · next col hColumn =>
      obtain ⟨x, y, hSplit, rfl, hFirst⟩ := declarationColumn?_eq_some_iff.mp hColumn
      exact ⟨_, _, (firstDeclaration_iff hLine).mpr ⟨rfl, x, y, hSplit, hFirst, rfl, rfl⟩,
        (hs.read_line hLine hSplit).conditional?_eq_some_iff.mp hBlock⟩

theorem ConditionalOn.pos (h : ConditionalOn name script n line k) : 0 < n := by
  obtain ⟨before, behind, ⟨front, x, y, rest, -, -, rfl, -⟩, -⟩ := h
  exact Nat.succ_pos _

/-- Every line has a number up to that of the last. -/
theorem ConditionalOn.le_count (h : ConditionalOn name script n line k) :
    n ≤ script.count '\n' + 1 := by
  obtain ⟨before, behind, ⟨front, x, y, rest, rfl, -, rfl, -⟩, -⟩ := h
  rw [List.count_append]
  omega

/-- Nothing comes before what is found on the next line. -/
theorem earliestBehind_of_found (hHere : ConditionalOn name script (i + 1) line k)
    (hUnique : ∀ line' k', ConditionalOn name script (i + 1) line' k' → line' = line ∧ k' = k) :
    EarliestBehind name script i d ↔ d = ⟨i + 1, line, k⟩ := by
  constructor
  · rintro ⟨hLater, hDeclared, hEarliest⟩
    obtain ⟨n, line', k'⟩ := d
    obtain rfl : n = i + 1 := by
      by_contra hne
      exact hEarliest (i + 1) line k (Nat.lt_succ_self i) (by dsimp only at hLater ⊢; omega) hHere
    obtain ⟨rfl, rfl⟩ := hUnique line' k' hDeclared
    rfl
  · rintro rfl
    refine ⟨Nat.lt_succ_self i, hHere, fun n _ _ hLater hBefore => ?_⟩
    exact absurd hBefore (Nat.not_lt.mpr hLater)

/-- Where nothing is found on the next line, it may be behind that. -/
theorem earliestBehind_succ_iff (hNone : ∀ line k, ¬ ConditionalOn name script (i + 1) line k) :
    EarliestBehind name script i d ↔ EarliestBehind name script (i + 1) d := by
  constructor
  · rintro ⟨hLater, hDeclared, hEarliest⟩
    refine ⟨?_, hDeclared, fun n line k hBehind => hEarliest n line k (Nat.lt_of_succ_lt hBehind)⟩
    refine Nat.lt_of_le_of_ne hLater fun hNext => hNone d.line d.block ?_
    rwa [← hNext] at hDeclared
  · rintro ⟨hLater, hDeclared, hEarliest⟩
    refine ⟨Nat.lt_of_succ_lt hLater, hDeclared, fun n line k hBehind hBefore hOn => ?_⟩
    rcases Nat.eq_or_lt_of_le (Nat.succ_le_of_lt hBehind) with rfl | hBeyond
    · exact hNone line k hOn
    · exact hEarliest n line k hBeyond hBefore hOn

/-- What is found on the lines from some place on, when the scan knows what is before it. -/
theorem conditionalFrom_eq_some_iff (hs : Describes s front t)
    (hFront : front = [] ∨ ∃ f, front = f ++ ['\n']) :
    conditionalFrom name (front.count '\n' + 1) s (Text.lines t) = some d ↔
      EarliestBehind name (front ++ t) (front.count '\n') d := by
  induction hLines : Text.lines t generalizing t front s with
  | nil => exact absurd hLines (Text.lines_ne_nil t)
  | cons line ls ih =>
    have hUnbroken : ∀ l ∈ line :: ls, '\n' ∉ l := hLines ▸ Text.not_mem_of_mem_lines
    have hText : t = Text.unlines (line :: ls) := by rw [← hLines, Text.unlines_lines]
    have hCount : line.count '\n' = 0 :=
      List.count_eq_zero.mpr (hUnbroken line (List.mem_cons_self ..))
    obtain ⟨rest, rfl, hEnds⟩ : ∃ rest, t = line ++ rest ∧ (rest = [] ∨ ∃ r, rest = '\n' :: r) := by
      cases ls with
      | nil => exact ⟨[], by rw [hText, List.append_nil]; rfl, .inl rfl⟩
      | cons l ls => exact ⟨_, by rw [hText, Text.unlines_cons_cons], .inr ⟨_, rfl⟩⟩
    have hLine : Text.IsLine front line rest :=
      ⟨hFront, hUnbroken line (List.mem_cons_self ..), hEnds⟩
    have hOn (l : Text) (k : Keyword) :
        ConditionalOn name (front ++ (line ++ rest)) (front.count '\n' + 1) l k ↔
          l = line ∧ blockOn name s line = some k := conditionalOn_iff hs hLine
    rw [conditionalFrom_cons]
    cases hBlock : blockOn name s line with
    | some k =>
      rw [earliestBehind_of_found ((hOn line k).mpr ⟨rfl, hBlock⟩), Option.some.injEq, eq_comm]
      intro l k' hOther
      obtain ⟨rfl, hSame⟩ := (hOn l k').mp hOther
      exact ⟨rfl, Option.some.inj (hSame.symm.trans hBlock)⟩
    | none =>
      have hNone (l : Text) (k : Keyword) :
          ¬ ConditionalOn name (front ++ (line ++ rest)) (front.count '\n' + 1) l k := by
        intro hHere
        have hFound := ((hOn l k).mp hHere).2
        rw [hBlock] at hFound
        simp at hFound
      rw [earliestBehind_succ_iff hNone]
      dsimp only
      rcases hEnds with rfl | ⟨r, rfl⟩
      · -- this was the last line
        rw [List.append_nil, Text.lines_of_not_mem hLine.unbroken] at hLines
        rw [← (List.cons.inj hLines).2, conditionalFrom]
        constructor
        · intro h
          simp at h
        · rintro ⟨hLater, hDeclared, -⟩
          have hLast := hDeclared.le_count
          rw [List.append_nil, List.count_append, hCount] at hLast
          omega
      · rw [Text.lines_append_break hLine.unbroken] at hLines
        have hNumber : (front ++ (line ++ ['\n'])).count '\n' = front.count '\n' + 1 := by
          rw [List.count_append, List.count_append, hCount]
          rfl
        have hNext := ih (hs.next hLine) (.inr ⟨front ++ line, (List.append_assoc ..).symm⟩)
          (List.cons.inj hLines).2
        rw [hNumber] at hNext
        simpa using hNext

/-- In a block that runs only under a condition there is an innermost one. -/
theorem Encloses.exists_innermost {a : Text} (h : Encloses before behind a k)
    (hk : k.isConditional = true) : ∃ k', InnermostConditional before behind k' := by
  induction hRoom : before.length - a.length using Nat.strongRecOn generalizing a k with
  | ind room ih =>
    by_cases hInner : ∃ a' k', Encloses before behind a' k' ∧ k'.isConditional = true ∧
        a.length < a'.length
    · obtain ⟨a', k', h', hk', hLonger⟩ := hInner
      have hInside := h'.length_lt
      exact ih (before.length - a'.length) (by omega) h' hk' rfl
    · refine ⟨k, a, h, hk, fun a' k' h' hk' => ?_⟩
      exact Nat.not_lt.mp fun hLonger => hInner ⟨a', k', h', hk', hLonger⟩

/--
**Declarations that run only under a condition.** In every script, and for every name,

1. what is reported is the earliest line on which the first declaration of the name stands
   in a block of a conditional keyword, with that line and the keyword of the innermost such
   block;
2. something is reported exactly if on some line the first declaration stands in such a
   block;
3. a declaration at which no brace is open is not reported.
-/
theorem conditionalDeclaration?_iff (name script : Text) :
    (∀ d, conditionalDeclaration? name script = some d ↔
      ConditionalOn name script d.lineNumber d.line d.block ∧
        ∀ n line k, n < d.lineNumber → ¬ ConditionalOn name script n line k) ∧
    ((conditionalDeclaration? name script).isSome = true ↔
      ∃ n line before behind, FirstDeclaration name script n line before behind ∧
        ∃ a k, Encloses before behind a k ∧ k.isConditional = true) ∧
    ∀ n line before behind, FirstDeclaration name script n line before behind →
      (∀ a b, ¬ OpenBrace before a b) →
        ∀ d, conditionalDeclaration? name script = some d → d.lineNumber ≠ n := by
  have hFound (d : ConditionalDeclaration) : conditionalDeclaration? name script = some d ↔
      ConditionalOn name script d.lineNumber d.line d.block ∧
        ∀ n line k, n < d.lineNumber → ¬ ConditionalOn name script n line k := by
    refine (conditionalFrom_eq_some_iff (describes_outermost script) (.inl rfl)).trans ?_
    constructor
    · rintro ⟨-, hDeclared, hEarliest⟩
      exact ⟨hDeclared, fun n line k hBefore hOn => hEarliest n line k hOn.pos hBefore hOn⟩
    · rintro ⟨hDeclared, hEarliest⟩
      exact ⟨hDeclared.pos, hDeclared, fun n line k _ hBefore => hEarliest n line k hBefore⟩
  refine ⟨hFound, ?_, ?_⟩
  · rw [Option.isSome_iff_exists]
    constructor
    · rintro ⟨d, hd⟩
      obtain ⟨⟨before, behind, hFirst, a, hEncloses, hk, -⟩, -⟩ := (hFound d).mp hd
      exact ⟨d.lineNumber, d.line, before, behind, hFirst, a, d.block, hEncloses, hk⟩
    · rintro ⟨n, line, before, behind, hFirst, a, k, hEncloses, hk⟩
      obtain ⟨k', hInner⟩ := hEncloses.exists_innermost hk
      -- the earliest of these lines is reported
      classical
      have hSome : ∃ n, ∃ line k, ConditionalOn name script n line k :=
        ⟨n, line, k', before, behind, hFirst, hInner⟩
      obtain ⟨line', k'', hOn⟩ := Nat.find_spec hSome
      refine ⟨⟨Nat.find hSome, line', k''⟩, (hFound _).mpr ⟨hOn, fun m l j hBefore hOther => ?_⟩⟩
      exact Nat.find_min hSome hBefore ⟨l, j, hOther⟩
  · rintro n line before behind hFirst hNone d hd rfl
    obtain ⟨⟨before', behind', hFirst', a, ⟨b, hOpen, -⟩, -⟩, -⟩ := (hFound d).mp hd
    rw [hFirst'.unique hFirst] at hOpen
    exact hNone a b hOpen

/-- A script with a declaration outside of all blocks and one in a loop. -/
def loopScript : Text := "var x\nfor (;;) \x7b\n  var x\n\x7d".toList

/-- The semicolons in the head of a loop do not separate it from its block. -/
theorem conditionalDeclaration?_iff_loopScript :
    ConditionalOn "x".toList loopScript 3 "  var x".toList .forWord ∧
      FirstDeclaration "x".toList loopScript 1 "var x".toList [] loopScript ∧
      ∀ d, conditionalDeclaration? "x".toList loopScript = some d → d.lineNumber ≠ 1 := by
  obtain ⟨hFound, -, hOutside⟩ := conditionalDeclaration?_iff "x".toList loopScript
  have hFirst : FirstDeclaration "x".toList loopScript 1 "var x".toList [] loopScript := by
    have hDeclares : Declares "x".toList none "var x".toList := declaresHere_iff.mp rfl
    exact ⟨[], [], "var x".toList, _, rfl, ⟨.inl rfl, by decide, .inr ⟨_, rfl⟩⟩, rfl, rfl,
      ⟨hDeclares, fun _ _ _ _ => Nat.zero_le _⟩, rfl, rfl⟩
  have hNone (a b : Text) : ¬ OpenBrace [] a b := fun h => by simpa using h.text
  exact ⟨((hFound ⟨3, "  var x".toList, .forWord⟩).mp (by decide)).1, hFirst,
    hOutside 1 _ _ _ hFirst hNone⟩

end Script

end SketchRepair
