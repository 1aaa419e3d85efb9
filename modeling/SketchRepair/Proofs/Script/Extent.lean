import SketchRepair.Proofs.Script.Block
import SketchRepair.Proofs.Text.Lines

/-!
# SketchRepair — how far the block around a line reaches

The search for the block around a line makes several guesses, and takes back what does
not balance. What it settles for is the line alone or a range that is even: as many
braces and parentheses are closed in it as are opened. Where something is still open at
the end of the line, the range can be told without the search: it begins where the walk
back stops, and ends with the first line further down that makes it even. On the way
there more may be closed than is open, and the two kinds of brackets have to come out
even on the same line.

* `isWalkStart_blockStart`, `IsWalkStart.unique` — where the walk back stops;
* `not_evenOn_of_lt_blockEnd`, `evenOn_blockEnd` — the walk forward stops at the first line
  that makes things even, or at the end;
* `blockAround_of_ne` — nothing but the two walks counts where they part;
* `blockAround?_extent` — **what the block around a line is**.
-/

namespace SketchRepair

namespace Script

/-- The lines from `a` to `b`, both included. -/
def linesFromTo (lines : List Text) (a b : Nat) : List Text := (lines.take (b + 1)).drop a

/-- As many braces and parentheses are closed on the lines from `a` to `b` as are opened. -/
def EvenOn (lines : List Text) (a b : Nat) : Prop :=
  (Text.unlines (linesFromTo lines a b)).count '{' =
      (Text.unlines (linesFromTo lines a b)).count '}' ∧
    (Text.unlines (linesFromTo lines a b)).count '(' =
      (Text.unlines (linesFromTo lines a b)).count ')'

/-- More braces or more parentheses are opened on the lines from `a` to `b` than are
closed. -/
def OpenOn (lines : List Text) (a b : Nat) : Prop :=
  (Text.unlines (linesFromTo lines a b)).count '}' <
      (Text.unlines (linesFromTo lines a b)).count '{' ∨
    (Text.unlines (linesFromTo lines a b)).count ')' <
      (Text.unlines (linesFromTo lines a b)).count '('

instance (lines : List Text) (a b : Nat) : Decidable (EvenOn lines a b) :=
  inferInstanceAs (Decidable (_ ∧ _))

instance (lines : List Text) (a b : Nat) : Decidable (OpenOn lines a b) :=
  inferInstanceAs (Decidable (_ ∨ _))

/-- A walk back from line `i`, over lines that run on into the next one, stops at `s`. -/
structure IsWalkStart (lines : List Text) (i s : Nat) : Prop where
  le : s ≤ i
  walked : ∀ j line, s ≤ j → j < i → lines[j]? = some line → runsOn line = true
  stops : ∀ j line, j + 1 = s → lines[j]? = some line → runsOn line = false

/-- The first line behind `i` that makes the lines from `s` on even. -/
structure ClosesFirst (lines : List Text) (s i e : Nat) : Prop where
  later : i < e
  inside : e < lines.length
  even : EvenOn lines s e
  first : ∀ k, i < k → k < e → ¬ EvenOn lines s k

/-- Surpluses that the given lines bring to zero. -/
def Evens (braces parens : Int) (ls : List Text) : Prop :=
  braces + braceSurplus (Text.unlines ls) = 0 ∧ parens + parenSurplus (Text.unlines ls) = 0

variable {lines ls : List Text} {line : Text} {i s k : Nat} {braces parens : Int}

-- ---------------------------------------------------------------------------
-- The walk back
-- ---------------------------------------------------------------------------

theorem blockStart_succ (h : lines[i]? = some line) :
    blockStart lines (i + 1) = if runsOn line then blockStart lines i else i + 1 := by
  have hWalk : (lines.take (i + 1)).reverse = line :: (lines.take i).reverse := by
    rw [List.take_add_one, h, Option.toList_some, List.reverse_append, List.reverse_singleton,
      List.singleton_append]
  rw [blockStart, hWalk, List.takeWhile_cons]
  split
  · rw [List.length_cons, Nat.add_sub_add_right, blockStart]
  · rw [List.length_nil, Nat.sub_zero]

theorem isWalkStart_blockStart (hi : i < lines.length) :
    IsWalkStart lines i (blockStart lines i) := by
  induction i with
  | zero => exact ⟨Nat.zero_le _, fun j l _ hj => absurd hj (Nat.not_lt_zero j), nofun⟩
  | succ i ih =>
    have hWalk := ih (Nat.lt_of_succ_lt hi)
    have hAt : lines[i]? = some lines[i] := List.getElem?_eq_getElem _
    rw [blockStart_succ hAt]
    split
    · next hOn =>
      refine ⟨Nat.le_succ_of_le hWalk.le, fun j l hFrom hTo hj => ?_, hWalk.stops⟩
      rcases Nat.lt_succ_iff_lt_or_eq.mp hTo with hBefore | rfl
      · exact hWalk.walked j l hFrom hBefore hj
      · rw [hAt, Option.some.injEq] at hj
        exact hj ▸ hOn
    · next hOff =>
      refine ⟨Nat.le_refl _, fun j l hFrom hTo _ => absurd hFrom (Nat.not_le.mpr hTo), ?_⟩
      rintro j l hj hLine
      obtain rfl : j = i := Nat.succ.inj hj
      rw [hAt, Option.some.injEq] at hLine
      rw [← hLine]
      exact Bool.not_eq_true _ ▸ hOff

/-- A walk back stops at one line only. -/
theorem IsWalkStart.unique {s' : Nat} (hi : i < lines.length) (h : IsWalkStart lines i s)
    (h' : IsWalkStart lines i s') : s = s' := by
  -- of two lines to stop at, the upper one would have been walked over
  have hNot {a b : Nat} (ha : IsWalkStart lines i a) (hb : IsWalkStart lines i b) : ¬ a < b := by
    intro hlt
    obtain ⟨j, rfl⟩ := Nat.exists_eq_add_of_lt hlt
    have hbi := hb.le
    have hAt : lines[a + j]? = some lines[a + j] := List.getElem?_eq_getElem _
    have hOn := ha.walked (a + j) _ (Nat.le_add_right a j) (by omega) hAt
    rw [hb.stops (a + j) _ rfl hAt] at hOn
    exact absurd hOn (by decide)
  have := hNot h h'
  have := hNot h' h
  omega

-- ---------------------------------------------------------------------------
-- The walk forward
-- ---------------------------------------------------------------------------

theorem evens_append {ks : List Text} : Evens braces parens (ks ++ ls) ↔
    Evens (braces + braceSurplus (Text.unlines ks)) (parens + parenSurplus (Text.unlines ks)) ls := by
  have hCount (c : Char) (hc : c ≠ '\n') : (Text.unlines (ks ++ ls)).count c =
      (Text.unlines ks).count c + (Text.unlines ls).count c := by
    rw [Text.count_unlines hc, List.flatten_append, List.count_append, Text.count_unlines hc,
      Text.count_unlines hc]
  simp only [Evens, braceSurplus, parenSurplus, hCount _ (show '{' ≠ '\n' by decide),
    hCount _ (show '}' ≠ '\n' by decide), hCount _ (show '(' ≠ '\n' by decide),
    hCount _ (show ')' ≠ '\n' by decide)]
  omega

theorem evens_cons {l : Text} : Evens braces parens (l :: ls) ↔
    Evens (braces + braceSurplus l) (parens + parenSurplus l) ls := by
  rw [← List.singleton_append]
  exact evens_append

theorem evens_nil : Evens braces parens [] ↔ braces = 0 ∧ parens = 0 := by
  simp [Evens, braceSurplus, parenSurplus, Text.unlines, Text.joinWith]

/-- Before the walk forward stops, no line makes things even. -/
theorem not_even_of_lt_linesToBalance (ls : List Text) : ∀ (braces parens : Int) (k : Nat),
    0 < k → k < linesToBalance braces parens ls → ¬ Evens braces parens (ls.take k) := by
  induction ls with
  | nil =>
    intro braces parens k _ hk
    exact absurd hk (Nat.not_lt_zero k)
  | cons l ls ih =>
    intro braces parens k hPos hk
    obtain ⟨k, rfl⟩ := Nat.exists_eq_add_of_lt hPos
    rw [linesToBalance] at hk
    rw [Nat.zero_add, List.take_succ_cons, evens_cons]
    split at hk
    · omega
    · next hUneven =>
      rcases Nat.eq_zero_or_pos k with rfl | hMore
      · rw [List.take_zero, evens_nil]
        exact hUneven
      · exact ih _ _ k hMore (by omega)

/-- Where the walk forward stops before the end, things are even. -/
theorem even_linesToBalance (ls : List Text) : ∀ (braces parens : Int),
    linesToBalance braces parens ls < ls.length →
      Evens braces parens (ls.take (linesToBalance braces parens ls)) := by
  induction ls with
  | nil =>
    intro braces parens h
    exact absurd h (Nat.not_lt_zero _)
  | cons l ls ih =>
    intro braces parens h
    rw [linesToBalance] at h ⊢
    split
    · next hEven =>
      rw [List.take_succ_cons, List.take_zero, evens_cons, evens_nil]
      exact hEven
    · next hUneven =>
      rw [List.take_succ_cons, evens_cons]
      rw [if_neg hUneven, List.length_cons] at h
      exact ih _ _ (by omega)

theorem linesToBalance_pos (h : ls ≠ []) : 0 < linesToBalance braces parens ls := by
  cases ls with
  | nil => exact absurd rfl h
  | cons l ls =>
    rw [linesToBalance]
    split <;> omega

theorem evenOn_iff {a b : Nat} : EvenOn lines a b ↔ Evens 0 0 (linesFromTo lines a b) := by
  simp only [EvenOn, Evens, braceSurplus, parenSurplus]
  omega

theorem isEven_linesFromTo_iff {a b : Nat} :
    isEven (Text.unlines (linesFromTo lines a b)) = true ↔ EvenOn lines a b := isEven_iff

/-- Lines further down make the lines from `s` on even when they bring the surpluses of the
ones before to zero. -/
theorem evenOn_add_iff (hs : s ≤ i) (hi : i < lines.length) (k : Nat) :
    EvenOn lines s (i + k) ↔
      Evens (braceSurplus (Text.unlines (linesFromTo lines s i)))
        (parenSurplus (Text.unlines (linesFromTo lines s i))) ((lines.drop (i + 1)).take k) := by
  have hLength : s ≤ (lines.take (i + 1)).length := by
    rw [List.length_take]
    omega
  have hLines : linesFromTo lines s (i + k) =
      linesFromTo lines s i ++ (lines.drop (i + 1)).take k := by
    rw [linesFromTo, linesFromTo, Nat.add_right_comm, List.take_add,
      List.drop_append_of_le_length hLength]
  rw [evenOn_iff, hLines, evens_append, Int.zero_add, Int.zero_add]

-- ---------------------------------------------------------------------------
-- The block
-- ---------------------------------------------------------------------------

/-- The block around a line is the line alone, or even. -/
theorem blockAround_alone_or_even {a b : Nat} (h : blockAround lines i = ⟨a, b⟩) :
    (a = i ∧ b = i) ∨ EvenOn lines a b := by
  unfold blockAround at h
  dsimp only at h
  split at h
  all_goals
    split at h
    · next hEven =>
      rw [Span.mk.injEq, Int.natCast_inj, Int.natCast_inj] at h
      obtain ⟨rfl, rfl⟩ := h
      exact .inr (isEven_linesFromTo_iff.mp hEven)
    · rw [Span.mk.injEq, Int.natCast_inj, Int.natCast_inj] at h
      exact .inl ⟨h.1.symm, h.2.symm⟩

theorem blockEnd_of_open (hOpen : OpenOn lines s i) : blockEnd lines s i =
    i + linesToBalance (braceSurplus (Text.unlines (linesFromTo lines s i)))
      (parenSurplus (Text.unlines (linesFromTo lines s i))) (lines.drop (i + 1)) := by
  refine if_pos ?_
  show 0 < braceSurplus (Text.unlines (linesFromTo lines s i)) ∨
    0 < parenSurplus (Text.unlines (linesFromTo lines s i))
  rw [braceSurplus, parenSurplus]
  exact hOpen.imp (fun h => by omega) fun h => by omega

/-- Where something is open, the walk forward goes on for a line at least. -/
theorem lt_blockEnd (hOpen : OpenOn lines s i) (hMore : i + 1 < lines.length) :
    i < blockEnd lines s i := by
  have hBehind : lines.drop (i + 1) ≠ [] := by
    rw [Ne, List.drop_eq_nil_iff]
    omega
  rw [blockEnd_of_open hOpen]
  exact Nat.lt_add_of_pos_right (linesToBalance_pos hBehind)

/-- The walk forward does not go past a line that makes things even. -/
theorem not_evenOn_of_lt_blockEnd (hOpen : OpenOn lines s i) (hs : s ≤ i) (hi : i < lines.length)
    (hLater : i < k) (hk : k < blockEnd lines s i) : ¬ EvenOn lines s k := by
  rw [blockEnd_of_open hOpen] at hk
  obtain ⟨k, rfl⟩ := Nat.exists_eq_add_of_le (Nat.le_of_lt hLater)
  rw [evenOn_add_iff hs hi]
  exact not_even_of_lt_linesToBalance _ _ _ k (by omega) (by omega)

/-- The walk forward stops at a line that makes things even, or at the last one. -/
theorem evenOn_blockEnd (hOpen : OpenOn lines s i) (hs : s ≤ i) (hi : i < lines.length) :
    EvenOn lines s (blockEnd lines s i) ∨ blockEnd lines s i + 1 = lines.length := by
  have hBounds := blockEnd_bounds hi s
  rw [blockEnd_of_open hOpen] at hBounds ⊢
  rw [evenOn_add_iff hs hi]
  refine Decidable.or_iff_not_imp_right.mpr fun hBefore => even_linesToBalance _ _ _ ?_
  rw [List.length_drop]
  omega

/-- Where the two walks part, the block around a line is the range between them, if that is
even. -/
theorem blockAround_of_ne (h : blockStart lines i ≠ blockEnd lines (blockStart lines i) i) :
    blockAround lines i =
      if isEven (Text.unlines (linesFromTo lines (blockStart lines i)
          (blockEnd lines (blockStart lines i) i)))
      then ⟨blockStart lines i, blockEnd lines (blockStart lines i) i⟩ else ⟨i, i⟩ := by
  have hNotLone : ¬ (blockStart lines i = blockEnd lines (blockStart lines i) i ∧
      holdsCall (lines.getD i []) = true) := fun hLone => h hLone.1
  simp only [blockAround, if_neg hNotLone]
  rfl

/-- **The block around a line.** Every line of a script has a block around it. It holds the
line, lies in the script, and is the line alone or even. If more is opened than closed from
where a walk back stops to the end of the line, and more lines follow, then it reaches from
there to the first line that makes it even, and is the line alone if there is none. -/
theorem blockAround?_extent (hi : i < lines.length) :
    ∃ a b : Nat, blockAround? lines i = some ⟨a, b⟩ ∧ a ≤ i ∧ i ≤ b ∧ b < lines.length ∧
      ((a = i ∧ b = i) ∨ EvenOn lines a b) ∧
      ∀ s, IsWalkStart lines i s → OpenOn lines s i → i + 1 < lines.length →
        (∀ e, ClosesFirst lines s i e → a = s ∧ b = e) ∧
        ((∀ e, i < e → e < lines.length → ¬ EvenOn lines s e) → a = i ∧ b = i) := by
  obtain ⟨a, b, hBlock, hFrom, hTo, hInside⟩ := blockAround_bounds hi
  have hFound : blockAround? lines i = some ⟨a, b⟩ := by
    rw [blockAround?, if_pos ⟨Int.natCast_nonneg i, Int.ofNat_lt.mpr hi⟩, Int.toNat_natCast, hBlock]
  refine ⟨a, b, hFound, hFrom, hTo, hInside, blockAround_alone_or_even hBlock, ?_⟩
  intro s hWalk hOpen hMore
  obtain rfl := hWalk.unique hi (isWalkStart_blockStart hi)
  have hs := hWalk.le
  have hLater := lt_blockEnd hOpen hMore
  have hStop := (blockEnd_bounds hi (blockStart lines i)).2
  rw [blockAround_of_ne (by omega)] at hBlock
  constructor
  · intro e he
    -- the walk forward can neither stop before that line nor go past it
    have hEnd : blockEnd lines (blockStart lines i) i = e := by
      have hNotPast : ¬ e < blockEnd lines (blockStart lines i) i := fun hlt =>
        not_evenOn_of_lt_blockEnd hOpen hs hi he.later hlt he.even
      have hNotBefore : ¬ blockEnd lines (blockStart lines i) i < e := by
        intro hlt
        have hInsideToo := he.inside
        rcases evenOn_blockEnd hOpen hs hi with hEven | hLast
        · exact he.first _ hLater hlt hEven
        · omega
      omega
    rw [hEnd, if_pos (isEven_linesFromTo_iff.mpr he.even), Span.mk.injEq, Int.natCast_inj,
      Int.natCast_inj] at hBlock
    exact ⟨hBlock.1.symm, hBlock.2.symm⟩
  · intro hNone
    have hUneven := hNone _ hLater hStop
    rw [if_neg (mt isEven_linesFromTo_iff.mp hUneven), Span.mk.injEq, Int.natCast_inj,
      Int.natCast_inj] at hBlock
    exact ⟨hBlock.1.symm, hBlock.2.symm⟩

/-- A call inside a block. Its parentheses are closed once too often, and are even again only
on the line that closes the block. -/
def handlerLines : List Text :=
  ["if (ready) \x7b".toList, "  p.on(function () \x7b".toList, "  \x7d));".toList,
    "  (draw".toList, "\x7d".toList]

theorem blockAround?_extent_handler : 1 < handlerLines.length ∧ IsWalkStart handlerLines 1 0 ∧
    OpenOn handlerLines 0 1 ∧ ClosesFirst handlerLines 0 1 4 ∧
    blockAround? handlerLines 1 = some ⟨0, 4⟩ := by
  have hInside : 1 < handlerLines.length := by decide
  have hWalk : IsWalkStart handlerLines 1 0 := by
    refine ⟨by decide, fun j line _ hj hLine => ?_, nofun⟩
    obtain rfl : j = 0 := Nat.lt_one_iff.mp hj
    obtain rfl := Option.some.inj hLine
    decide
  have hOpen : OpenOn handlerLines 0 1 := by decide
  have hCloses : ClosesFirst handlerLines 0 1 4 := by
    refine ⟨by decide, by decide, by decide, fun k hLater hk => ?_⟩
    obtain rfl | rfl : k = 2 ∨ k = 3 := by omega
    · decide
    · decide
  obtain ⟨a, b, hBlock, -, -, -, -, hReach⟩ := blockAround?_extent hInside
  obtain ⟨rfl, rfl⟩ := (hReach 0 hWalk hOpen (by decide)).1 4 hCloses
  exact ⟨hInside, hWalk, hOpen, hCloses, hBlock⟩

end Script

end SketchRepair
