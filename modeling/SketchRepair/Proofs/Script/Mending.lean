import SketchRepair.Proofs.Script.Matching
import SketchRepair.Proofs.Text.Blank
import SketchRepair.Script.ParenRepair

/-!
# SketchRepair — how mechanical repair matches parentheses

The issues are mended from the last to the first, so what stands behind the one at hand
is balanced already. An open parenthesis is closed behind the text of its call. That
text is balanced: nothing in it is cut off from its partner, and nothing behind it
either, so the new `)` and the one at hand match each other and no other pair is
touched. A stray one gives way to a comment without parentheses.

A repaired script is sewn together from stitches: characters that are kept, parentheses
put in, and comments in the place of stray ones. A stitch has an offset in the script as
it was and one in the repaired script, and so the two can be compared.

* `callPart_cons` — the scan for the end of a call, at one character;
* `mendParen_missing`, `mendParen_stray` — one repair;
* `balanced_callText` — the text of a call is balanced;
* `Sound.append`, `Sound.close` — sewing on, and closing what is open.
-/

namespace SketchRepair

namespace Script

-- ---------------------------------------------------------------------------
-- One repair
-- ---------------------------------------------------------------------------

theorem before_length (a t : Text) : Offset.before (a.length : Int) (a ++ t) = a := by
  rw [Offset.before, Offset.place, if_neg (by omega)]
  simp

theorem beyond_length (a t : Text) : Offset.beyond (a.length : Int) (a ++ t) = t := by
  rw [Offset.beyond, Offset.place, if_neg (by omega)]
  simp

/-- At a character the scan for the end of a call stops, or it goes on with the parentheses
that are open behind it. It stops only at the end of a statement, and there it does if none
is open. -/
theorem callPart_cons (depth : Int) (c : Char) (t : Text) :
    (callPart depth (c :: t) = [] ∧ endsStatement c = true ∧ depth ≤ 0) ∨
      ∃ next : Int, callPart depth (c :: t) = c :: callPart next t ∧
        next + [c].count ')' = depth + [c].count '(' ∧ (endsStatement c = true → 0 < depth) := by
  rw [callPart]
  by_cases hOpen : c = '('
  · subst hOpen
    exact .inr ⟨depth + 1, rfl, by simp, fun h => absurd h (by decide)⟩
  rw [if_neg hOpen]
  by_cases hClose : c = ')'
  · subst hClose
    exact .inr ⟨depth - 1, rfl, by simp, fun h => absurd h (by decide)⟩
  rw [if_neg hClose]
  split
  · next hEnd => exact .inl ⟨rfl, hEnd⟩
  · next hOn =>
    refine .inr ⟨depth, rfl, by simp [hOpen, hClose], fun hEnds => ?_⟩
    have hDeep : ¬ depth ≤ 0 := fun h => hOn ⟨hEnds, h⟩
    omega

theorem isPrefix_callPart (t : Text) : ∀ (depth : Int), callPart depth t <+: t := by
  induction t with
  | nil =>
    intro depth
    exact List.prefix_refl _
  | cons c t ih =>
    intro depth
    rcases callPart_cons depth c t with ⟨hStop, -⟩ | ⟨next, hOn, -⟩
    · rw [hStop]
      exact List.nil_prefix
    · rw [hOn]
      exact List.cons_prefix_cons.mpr ⟨rfl, ih next⟩

/-- The part of a text in which the parenthesis open before it is to be closed. -/
def callText (t : Text) : Text := Text.trimEnd (callPart 0 t)

theorem isPrefix_callText (t : Text) : callText t <+: t :=
  (Text.isPrefix_trimEnd _).trans (isPrefix_callPart t 0)

theorem closePosition_eq (a t : Text) :
    closePosition (a ++ '(' :: t) a.length = ((a ++ '(' :: callText t).length : Int) := by
  have hFirst : (a.length : Int) + 1 = ((a ++ ['(']).length : Int) := by simp
  have hText : a ++ '(' :: t = a ++ ['('] ++ t := by simp
  rw [closePosition, hFirst, hText, beyond_length]
  split
  · next h =>
    -- the parenthesis is the last character
    have hNil : t = [] := by
      rw [List.length_append] at h
      exact List.length_eq_zero_iff.mp (by omega)
    subst hNil
    simp [callText, callPart, Text.trimEnd]
  · dsimp only
    rw [if_neg (by omega)]
    simp [callText]
    omega

/-- An open parenthesis is closed behind the text of its call. -/
theorem mendParen_missing (a t : Text) :
    mendParen (a ++ '(' :: t) ⟨.missingClose, a.length⟩ =
      a ++ '(' :: (callText t ++ ')' :: t.drop (callText t).length) := by
  have hRest : callText t ++ t.drop (callText t).length = t :=
    List.prefix_iff_eq_append.mp (isPrefix_callText t)
  have hText : a ++ '(' :: t = a ++ '(' :: callText t ++ t.drop (callText t).length := by
    rw [List.append_assoc, List.cons_append, hRest]
  rw [mendParen]
  simp only [closePosition_eq]
  rw [hText, before_length, beyond_length]
  simp

/-- A stray parenthesis gives way to the marker. -/
theorem mendParen_stray (a t : Text) :
    mendParen (a ++ ')' :: t) ⟨.extraClose, a.length⟩ = a ++ (strayMarker ++ t) := by
  have hNext : (a.length : Int) + 1 = ((a ++ [')']).length : Int) := by simp
  have hText : a ++ ')' :: t = a ++ [')'] ++ t := by simp
  have hBeyond : Offset.beyond ((a.length : Int) + 1) (a ++ ')' :: t) = t := by
    rw [hNext, hText, beyond_length]
  rw [mendParen]
  simp only [hBeyond, before_length, List.append_assoc]

theorem count_cons (x c : Char) (p : Text) : (c :: p).count x = [c].count x + p.count x := by
  rw [← List.singleton_append, List.count_append]

/-- Where as many are closed as are open, the scan for the end of a call stops with none
open. -/
theorem count_callPart (t : Text) : ∀ depth : Int,
    (∀ p, p <+: t → (p.count ')' : Int) ≤ depth + p.count '(') →
    (t.count ')' : Int) = depth + t.count '(' →
    ((callPart depth t).count ')' : Int) = depth + (callPart depth t).count '(' := by
  induction t with
  | nil =>
    intro depth _ hEnd
    exact hEnd
  | cons c t ih =>
    intro depth hPrefix hEnd
    rcases callPart_cons depth c t with ⟨hStop, -, hNone⟩ | ⟨next, hOn, hNext, -⟩
    · have hHere := hPrefix [] List.nil_prefix
      rw [hStop]
      simp only [List.count_nil] at hHere ⊢
      omega
    · have hTail : ∀ p, p <+: t → (p.count ')' : Int) ≤ next + p.count '(' := by
        intro p hp
        have := hPrefix (c :: p) (List.cons_prefix_cons.mpr ⟨rfl, hp⟩)
        rw [count_cons, count_cons '('] at this
        omega
      rw [count_cons, count_cons '('] at hEnd
      have := ih next hTail (by omega)
      rw [hOn, count_cons, count_cons '(']
      omega

/-- The text of a call is balanced when everything behind the open parenthesis is. -/
theorem balanced_callText {t : Text} (h : Balanced t) : Balanced (callText t) where
  closed := by
    have hCount := count_callPart t 0 (fun p hp => by have := h.opened p hp; omega)
      (by have := h.closed; omega)
    rw [callText, Text.count_trimEnd (by decide), Text.count_trimEnd (by decide)]
    omega
  opened := fun p hp => h.opened p (hp.trans (isPrefix_callText t))

-- ---------------------------------------------------------------------------
-- Stitches
-- ---------------------------------------------------------------------------

/-- A stitch of a repaired script. -/
inductive Stitch where
  | kept (c : Char)
  /-- A `)` that is put in. -/
  | closing
  /-- The marker, in the place of a `)`. -/
  | marker
  deriving DecidableEq

namespace Stitch

/-- What the script held there. -/
def old : Stitch → Text
  | kept c => [c]
  | closing => []
  | marker => [')']

/-- What the repaired script holds there. -/
def new : Stitch → Text
  | kept c => [c]
  | closing => [')']
  | marker => strayMarker

/-- Does the stitch change the script? -/
def isRepair : Stitch → Bool
  | kept _ => false
  | _ => true

theorem new_ne_nil (x : Stitch) : x.new ≠ [] := by
  cases x with
  | kept c => exact List.cons_ne_nil c []
  | closing => exact List.cons_ne_nil ')' []
  | marker => decide

theorem exists_new_eq {x : Stitch} (h : x ≠ .marker) : ∃ c, x.new = [c] := by
  cases x with
  | kept c => exact ⟨c, rfl⟩
  | closing => exact ⟨')', rfl⟩
  | marker => exact absurd rfl h

end Stitch

/-- The script as it was. -/
def oldText (w : List Stitch) : Text := w.flatMap Stitch.old

/-- The repaired script. -/
def newText (w : List Stitch) : Text := w.flatMap Stitch.new

/-- The stitch stands at the offset `i` of the script as it was, and at `i'` of the
repaired one. -/
def At (w : List Stitch) (x : Stitch) (i i' : Nat) : Prop :=
  ∃ v u, w = v ++ x :: u ∧ i = (oldText v).length ∧ i' = (newText v).length

/-- How sound repair goes about the parentheses of a script. -/
structure Sound (w : List Stitch) : Prop where
  /-- The repaired script is balanced. -/
  balanced : Balanced (newText w)
  /-- What matched each other is kept and still does. -/
  pairs : ∀ i j, Paired (oldText w) i j → ∃ i' j', At w (.kept '(') i i' ∧ At w (.kept ')') j j' ∧
    Paired (newText w) i' j'
  /-- What was left open is kept and matches one that is put in. -/
  closes : ∀ i, Lone '(' (oldText w) i → ∃ i' j j', At w (.kept '(') i i' ∧ At w .closing j j' ∧
    Paired (newText w) i' j'
  /-- None is put in for anything else. -/
  needed : ∀ j j', At w .closing j j' → ∃ i i', Lone '(' (oldText w) i ∧
    At w (.kept '(') i i' ∧ Paired (newText w) i' j'
  /-- The marker stands for stray ones, and for nothing else. -/
  marks : ∀ j, Lone ')' (oldText w) j ↔ ∃ j', At w .marker j j'

variable {v w w₁ w₂ : List Stitch} {x y : Stitch} {i i' j j' : Nat} {a b t u : Text}

@[simp] theorem oldText_nil : oldText [] = [] := rfl

@[simp] theorem newText_nil : newText [] = [] := rfl

@[simp] theorem oldText_cons : oldText (x :: w) = x.old ++ oldText w := List.flatMap_cons ..

@[simp] theorem newText_cons : newText (x :: w) = x.new ++ newText w := List.flatMap_cons ..

@[simp] theorem oldText_append : oldText (v ++ w) = oldText v ++ oldText w := List.flatMap_append

@[simp] theorem newText_append : newText (v ++ w) = newText v ++ newText w := List.flatMap_append

@[simp] theorem oldText_kept (b : Text) : oldText (b.map .kept) = b := by
  simp [oldText, List.flatMap_map, Stitch.old]

@[simp] theorem newText_kept (b : Text) : newText (b.map .kept) = b := by
  simp [newText, List.flatMap_map, Stitch.new]

theorem At.mem (h : At w x i i') : x ∈ w := by
  obtain ⟨v, u, rfl, -, -⟩ := h
  simp

theorem at_head : At (x :: w) x 0 0 := ⟨[], w, rfl, rfl, rfl⟩

theorem at_singleton_iff : At [x] y i i' ↔ y = x ∧ i = 0 ∧ i' = 0 := by
  constructor
  · rintro ⟨v, u, hText, rfl, rfl⟩
    cases v with
    | nil =>
      obtain ⟨rfl, -⟩ := List.cons_eq_cons.mp hText
      exact ⟨rfl, rfl, rfl⟩
    | cons z v => simp at hText
  · rintro ⟨rfl, rfl, rfl⟩
    exact at_head

theorem At.append_right (h : At v x i i') (w : List Stitch) : At (v ++ w) x i i' := by
  obtain ⟨a, b, rfl, rfl, rfl⟩ := h
  exact ⟨a, b ++ w, by simp, rfl, rfl⟩

theorem At.append_left (h : At w x i i') (v : List Stitch) :
    At (v ++ w) x ((oldText v).length + i) ((newText v).length + i') := by
  obtain ⟨a, b, rfl, rfl, rfl⟩ := h
  exact ⟨v ++ a, b, by simp, by simp, by simp⟩

/-- A stitch of two pieces sewn together is one of the first or of the second. -/
theorem At.cases_append (h : At (v ++ w) x i i') : At v x i i' ∨
    ∃ k k', i = (oldText v).length + k ∧ i' = (newText v).length + k' ∧ At w x k k' := by
  obtain ⟨a, b, hText, rfl, rfl⟩ := h
  rcases List.append_eq_append_iff.mp hText with ⟨c, rfl, rfl⟩ | ⟨c, rfl, hRest⟩
  · exact .inr ⟨(oldText c).length, (newText c).length, by simp, by simp, c, b, rfl, rfl, rfl⟩
  · rcases List.cons_eq_append_iff.mp hRest with ⟨rfl, rfl⟩ | ⟨c, rfl, rfl⟩
    · exact .inr ⟨0, 0, by simp, by simp, at_head⟩
    · exact .inl ⟨a, c, rfl, rfl, rfl⟩

/-- Every stitch takes up room in the repaired script. -/
theorem At.lt (h : At w x i i') : i' < (newText w).length := by
  obtain ⟨a, b, rfl, -, rfl⟩ := h
  have := List.length_pos_iff.mpr x.new_ne_nil
  simp
  omega

theorem at_kept {c : Char} (h : b[i]? = some c) : At (b.map .kept) (.kept c) i i := by
  obtain ⟨a, d, rfl, rfl⟩ := exists_of_getElem? h
  exact ⟨a.map .kept, d.map .kept, by simp, by simp, by simp⟩

-- ---------------------------------------------------------------------------
-- Sewing on
-- ---------------------------------------------------------------------------

/-- A balanced text is kept as it is. -/
theorem sound_kept (hb : Balanced b) : Sound (b.map .kept) where
  balanced := by rwa [newText_kept]
  pairs := by
    intro i j h
    rw [oldText_kept] at h
    obtain ⟨hOpen, hClose⟩ := h.getElem?
    exact ⟨i, j, at_kept hOpen, at_kept hClose, by rwa [newText_kept]⟩
  closes := by
    intro i h
    rw [oldText_kept] at h
    exact absurd h hb.not_lone_open
  needed := by
    intro j j' h
    exact absurd h.mem (by simp)
  marks := by
    intro j
    rw [oldText_kept]
    refine ⟨fun h => absurd h hb.not_lone_close, ?_⟩
    rintro ⟨j', h⟩
    exact absurd h.mem (by simp)

/-- A stray parenthesis gives way to the marker. -/
theorem sound_marker : Sound [.marker] where
  balanced := nested_of_not_mem (by decide) (by decide)
  pairs := by
    intro i j h
    have hLength : j < 1 := h.lt.2
    have := h.lt.1
    omega
  closes := by
    intro i h
    exact absurd (lone_singleton_iff.mp h).1 (by decide)
  needed := by
    intro j j' h
    exact absurd h.mem (by decide)
  marks := by
    intro j
    constructor
    · intro h
      obtain ⟨-, rfl⟩ := lone_singleton_iff.mp h
      exact ⟨0, at_head⟩
    · rintro ⟨j', h⟩
      obtain ⟨-, rfl, -⟩ := at_singleton_iff.mp h
      exact lone_singleton_iff.mpr ⟨rfl, rfl⟩

/-- Two pieces that stand apart are sewn together. -/
theorem Sound.append (hv : Sound v) (hw : Sound w) (hApart : Apart (oldText v) (oldText w)) :
    Sound (v ++ w) where
  balanced := by
    rw [newText_append]
    exact hv.balanced.append hw.balanced
  pairs := by
    intro i j h
    rw [oldText_append] at h
    rw [newText_append]
    rcases hApart i j h with hIn | ⟨i, j, rfl, rfl, hBehind⟩
    · obtain ⟨i', j', hi, hj, hPair⟩ := hv.pairs i j hIn
      exact ⟨i', j', hi.append_right w, hj.append_right w, hPair.append_right _⟩
    · obtain ⟨i', j', hi, hj, hPair⟩ := hw.pairs i j hBehind
      exact ⟨_, _, hi.append_left v, hj.append_left v, hPair.append_left _⟩
  closes := by
    intro i h
    rw [oldText_append, lone_append_iff hApart] at h
    rw [newText_append]
    rcases h with hIn | ⟨i, rfl, hBehind⟩
    · obtain ⟨i', j, j', hi, hj, hPair⟩ := hv.closes i hIn
      exact ⟨i', j, j', hi.append_right w, hj.append_right w, hPair.append_right _⟩
    · obtain ⟨i', j, j', hi, hj, hPair⟩ := hw.closes i hBehind
      exact ⟨_, _, _, hi.append_left v, hj.append_left v, hPair.append_left _⟩
  needed := by
    intro j j' h
    rw [oldText_append, newText_append]
    rcases h.cases_append with hIn | ⟨k, k', rfl, rfl, hBehind⟩
    · obtain ⟨i, i', hLone, hi, hPair⟩ := hv.needed j j' hIn
      exact ⟨i, i', (lone_append_iff hApart).mpr (.inl hLone), hi.append_right w,
        hPair.append_right _⟩
    · obtain ⟨i, i', hLone, hi, hPair⟩ := hw.needed k k' hBehind
      exact ⟨_, _, (lone_append_iff hApart).mpr (.inr ⟨i, rfl, hLone⟩), hi.append_left v,
        hPair.append_left _⟩
  marks := by
    intro j
    rw [oldText_append, lone_append_iff hApart, hv.marks]
    constructor
    · rintro (⟨j', hIn⟩ | ⟨k, rfl, hBehind⟩)
      · exact ⟨j', hIn.append_right w⟩
      · obtain ⟨k', hk⟩ := (hw.marks k).mp hBehind
        exact ⟨_, hk.append_left v⟩
    · rintro ⟨j', h⟩
      rcases h.cases_append with hIn | ⟨k, k', rfl, -, hBehind⟩
      · exact .inl ⟨j', hIn⟩
      · exact .inr ⟨k, rfl, (hw.marks k).mpr ⟨k', hBehind⟩⟩

-- ---------------------------------------------------------------------------
-- Closing what is open
-- ---------------------------------------------------------------------------

/-- The offset that `i'` becomes when a parenthesis is opened before everything and one
is closed at `n`. -/
def enclosed (n i' : Nat) : Nat := if i' < n then i' + 1 else i' + 2

/-- A parenthesis is opened before two pieces, and closed between them. -/
def enclose (w₁ w₂ : List Stitch) : List Stitch := .kept '(' :: (w₁ ++ .closing :: w₂)

@[simp] theorem oldText_enclose : oldText (enclose w₁ w₂) = '(' :: oldText (w₁ ++ w₂) := by
  simp [enclose, Stitch.old]

@[simp] theorem newText_enclose :
    newText (enclose w₁ w₂) = '(' :: (newText w₁ ++ ')' :: newText w₂) := by
  simp [enclose, Stitch.new]

theorem enclosed_of_lt {n k : Nat} (h : k < n) : enclosed n k = 1 + k := by
  rw [enclosed, if_pos h, Nat.add_comm]

theorem enclosed_add (n k : Nat) : enclosed n (n + k) = 1 + (n + (1 + k)) := by
  rw [enclosed, if_neg (by omega)]
  omega

/-- Pairs on either side of the place where it is closed stay pairs. -/
theorem Paired.enclose (ha : Balanced a) (h : Paired (a ++ b) i j) :
    Paired ('(' :: (a ++ ')' :: b)) (enclosed a.length i) (enclosed a.length j) := by
  rcases apart_of_balanced ha b i j h with hIn | ⟨i, j, rfl, rfl, hBehind⟩
  · have hi : i < a.length := Nat.lt_trans hIn.lt.1 hIn.lt.2
    rw [enclosed_of_lt hi, enclosed_of_lt hIn.lt.2]
    exact (hIn.append_right (')' :: b)).append_left ['(']
  · rw [enclosed_add, enclosed_add]
    exact ((hBehind.append_left [')']).append_left a).append_left ['(']

theorem at_enclose_iff : At (enclose w₁ w₂) x i i' ↔
    (x = .kept '(' ∧ i = 0 ∧ i' = 0) ∨
      (x = .closing ∧ i = 1 + (oldText w₁).length ∧ i' = 1 + (newText w₁).length) ∨
      ∃ k k', i = 1 + k ∧ i' = enclosed (newText w₁).length k' ∧ At (w₁ ++ w₂) x k k' := by
  constructor
  · intro h
    rcases At.cases_append (v := [.kept '(']) h with hFirst | ⟨i, i', rfl, rfl, hNext⟩
    · exact .inl (at_singleton_iff.mp hFirst)
    rcases hNext.cases_append with hIn | ⟨i, i', rfl, rfl, hThen⟩
    · exact .inr (.inr ⟨i, i', rfl, (enclosed_of_lt hIn.lt).symm, hIn.append_right w₂⟩)
    rcases At.cases_append (v := [.closing]) hThen with hNew | ⟨i, i', rfl, rfl, hBehind⟩
    · obtain ⟨rfl, rfl, rfl⟩ := at_singleton_iff.mp hNew
      exact .inr (.inl ⟨rfl, rfl, rfl⟩)
    · refine .inr (.inr ⟨(oldText w₁).length + i, (newText w₁).length + i', ?_, ?_,
        hBehind.append_left w₁⟩)
      · rw [show (oldText [Stitch.closing]).length = 0 from rfl, Nat.zero_add]
        rfl
      · rw [enclosed_add]
        rfl
  · rintro (⟨rfl, rfl, rfl⟩ | ⟨rfl, rfl, rfl⟩ | ⟨k, k', rfl, rfl, h⟩)
    · exact at_head
    · exact ((at_head (w := w₂)).append_left w₁).append_left [.kept '(']
    · rcases h.cases_append with hIn | ⟨k, k', rfl, rfl, hBehind⟩
      · rw [enclosed_of_lt hIn.lt]
        exact (hIn.append_right (.closing :: w₂)).append_left [.kept '(']
      · rw [enclosed_add]
        have hNew := ((hBehind.append_left [.closing]).append_left w₁).append_left [.kept '(']
        rwa [show (oldText [Stitch.closing]).length = 0 from rfl, Nat.zero_add] at hNew

/-- An open parenthesis before everything is closed, behind a part that is balanced then. -/
theorem Sound.close (hw : Sound (w₁ ++ w₂)) (hFirst : Balanced (newText w₁))
    (hApart : Apart ['('] (oldText (w₁ ++ w₂))) : Sound (enclose w₁ w₂) := by
  have hText : oldText (enclose w₁ w₂) = ['('] ++ oldText (w₁ ++ w₂) := oldText_enclose
  have hPaired {i j : Nat} (h : Paired (newText (w₁ ++ w₂)) i j) :
      Paired (newText (enclose w₁ w₂)) (enclosed (newText w₁).length i)
        (enclosed (newText w₁).length j) := by
    rw [newText_enclose]
    rw [newText_append] at h
    exact h.enclose hFirst
  have hNew : Paired (newText (enclose w₁ w₂)) 0 (1 + (newText w₁).length) := by
    rw [newText_enclose]
    exact ⟨[], newText w₁, newText w₂, rfl, hFirst, rfl, by omega⟩
  constructor
  case balanced =>
    rw [newText_enclose]
    refine Nested.close (by decide) ?_
    rw [← newText_append]
    exact hw.balanced
  case pairs =>
    intro i j h
    rw [hText] at h
    rcases hApart i j h with hIn | ⟨i, j, rfl, rfl, hBehind⟩
    · have hLength : j < 1 := hIn.lt.2
      have := hIn.lt.1
      omega
    · obtain ⟨i', j', hi, hj, hPair⟩ := hw.pairs i j hBehind
      exact ⟨_, _, at_enclose_iff.mpr (.inr (.inr ⟨i, i', rfl, rfl, hi⟩)),
        at_enclose_iff.mpr (.inr (.inr ⟨j, j', rfl, rfl, hj⟩)), hPaired hPair⟩
  case closes =>
    intro i h
    rw [hText, lone_append_iff hApart] at h
    rcases h with hIn | ⟨i, rfl, hBehind⟩
    · obtain ⟨-, rfl⟩ := lone_singleton_iff.mp hIn
      exact ⟨0, _, _, at_enclose_iff.mpr (.inl ⟨rfl, rfl, rfl⟩),
        at_enclose_iff.mpr (.inr (.inl ⟨rfl, rfl, rfl⟩)), hNew⟩
    · obtain ⟨i', j, j', hi, hj, hPair⟩ := hw.closes i hBehind
      exact ⟨_, _, _, at_enclose_iff.mpr (.inr (.inr ⟨i, i', rfl, rfl, hi⟩)),
        at_enclose_iff.mpr (.inr (.inr ⟨j, j', rfl, rfl, hj⟩)), hPaired hPair⟩
  case needed =>
    intro j j' h
    rw [hText]
    rcases at_enclose_iff.mp h with ⟨hx, -⟩ | ⟨-, rfl, rfl⟩ | ⟨k, k', rfl, rfl, hk⟩
    · exact absurd hx (by simp)
    · exact ⟨0, 0, (lone_append_iff hApart).mpr (.inl (lone_singleton_iff.mpr ⟨rfl, rfl⟩)),
        at_enclose_iff.mpr (.inl ⟨rfl, rfl, rfl⟩), hNew⟩
    · obtain ⟨i, i', hLone, hi, hPair⟩ := hw.needed k k' hk
      exact ⟨_, _, (lone_append_iff hApart).mpr (.inr ⟨i, rfl, hLone⟩),
        at_enclose_iff.mpr (.inr (.inr ⟨i, i', rfl, rfl, hi⟩)), hPaired hPair⟩
  case marks =>
    intro j
    rw [hText, lone_append_iff hApart]
    constructor
    · rintro (hIn | ⟨j, rfl, hBehind⟩)
      · exact absurd (lone_singleton_iff.mp hIn).1 (by decide)
      · obtain ⟨j', hj⟩ := (hw.marks j).mp hBehind
        exact ⟨_, at_enclose_iff.mpr (.inr (.inr ⟨j, j', rfl, rfl, hj⟩))⟩
    · rintro ⟨j', h⟩
      rcases at_enclose_iff.mp h with ⟨hx, -⟩ | ⟨hx, -⟩ | ⟨k, k', rfl, -, hk⟩
      · exact absurd hx (by simp)
      · exact absurd hx (by simp)
      · exact .inr ⟨k, rfl, (hw.marks k).mpr ⟨k', hk⟩⟩

end Script

end SketchRepair
