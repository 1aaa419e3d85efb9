import SketchRepair.Proofs.Script.Mending

/-!
# SketchRepair — where mechanical repair puts parentheses in

An open parenthesis is closed at the end of its call, in a script whose later parentheses
are closed already. Those that are closed after it may end at the same place, or have the
new `)` within their own call. Neither moves what has been put in: what is put in further
out goes into the blanks and the parentheses that trail it, or in front of the opening
parenthesis, or behind the statement end, but never between the two that match.

* `callPart_stops`, `callPart_inside` — where the scan for the end of a call comes to
  stop, and what it runs over;
* `fits_callText` — a parenthesis put in behind the text of a call fits;
* `Closes.append_left`, `Closes.enclose` — it still does when more is sewn on;
* `Unmatched.exists_stitches` — all issues of a text, mended from the last to the first.
-/

namespace SketchRepair

namespace Script

-- ---------------------------------------------------------------------------
-- The end of a call
-- ---------------------------------------------------------------------------

/-- The scan stops at the end of the text, or where a statement ends. -/
theorem callPart_stops (t : Text) : ∀ depth : Int,
    ∃ rest, t = callPart depth t ++ rest ∧ ∀ c, rest.head? = some c → endsStatement c = true := by
  induction t with
  | nil =>
    intro depth
    exact ⟨[], rfl, by simp⟩
  | cons c t ih =>
    intro depth
    rcases callPart_cons depth c t with ⟨hStop, hEnds, -⟩ | ⟨next, hOn, -⟩
    · rw [hStop]
      refine ⟨c :: t, rfl, ?_⟩
      intro d hd
      rw [← Option.some.inj hd]
      exact hEnds
    · obtain ⟨rest, hText, hStop⟩ := ih next
      rw [hOn]
      exact ⟨rest, congrArg (c :: ·) hText, hStop⟩

/-- The scan runs over the end of a statement only within parentheses. -/
theorem callPart_inside {c : Char} (hEnds : endsStatement c = true) (t : Text) :
    ∀ (depth : Int) (p : Text), p ++ [c] <+: callPart depth t →
      (p.count ')' : Int) < depth + p.count '(' := by
  induction t with
  | nil =>
    intro depth p hp
    have hNil : p ++ [c] = [] := List.prefix_nil.mp hp
    exact absurd hNil (by simp)
  | cons d t ih =>
    intro depth p hp
    rcases callPart_cons depth d t with ⟨hStop, -⟩ | ⟨next, hOn, hNext, hDeep⟩
    · rw [hStop] at hp
      have hNil : p ++ [c] = [] := List.prefix_nil.mp hp
      exact absurd hNil (by simp)
    rw [hOn] at hp
    cases p with
    | nil =>
      -- the scan would have stopped here if no parenthesis were open
      obtain ⟨rfl, -⟩ := List.cons_prefix_cons.mp hp
      have := hDeep hEnds
      simp only [List.count_nil]
      omega
    | cons e p =>
      obtain ⟨rfl, hRest⟩ := List.cons_prefix_cons.mp hp
      have := ih next p hRest
      rw [count_cons, count_cons '(']
      omega

-- ---------------------------------------------------------------------------
-- What fits
-- ---------------------------------------------------------------------------

/-- From here on there are blanks and parentheses that are put in, up to where a
statement ends or the script does. -/
inductive Trails : List Stitch → Prop where
  | nil : Trails []
  | stop {c : Char} {u : List Stitch} (hEnds : endsStatement c = true) : Trails (.kept c :: u)
  | blank {c : Char} {u : List Stitch} (hBlank : isBlank c = true) (hRest : Trails u) :
    Trails (.kept c :: u)
  | closing {u : List Stitch} (hRest : Trails u) : Trails (.closing :: u)

/-- A parenthesis that is put in behind `m` and before `u` closes one open before `m`, and
stands where that call ends. -/
structure Fits (m u : List Stitch) : Prop where
  /-- It matches the one that is open. -/
  balanced : Balanced (newText m)
  /-- Where a statement ends between the two, another parenthesis is open. -/
  inside : ∀ p c, p ++ [c] <+: newText m → endsStatement c = true → p.count ')' < p.count '('
  /-- It does not follow a blank. -/
  tight : ∀ c, (newText m).getLast? = some c → isBlank c = false
  /-- Nothing else of the statement is behind it. -/
  trails : Trails u

/-- The parenthesis opened at the offset `k` of the script as it was is closed by one that
is put in, and that fits. -/
def Closes (w : List Stitch) (k : Nat) : Prop :=
  ∃ v m u, w = v ++ .kept '(' :: (m ++ .closing :: u) ∧ (oldText v).length = k ∧ Fits m u

variable {v w w₁ w₂ u u₁ : List Stitch} {i k : Nat} {t : Text}

/-- Blanks up to where a statement ends are kept ones when no marker follows. -/
theorem trails_of_newText (hMarker : .marker ∉ u) : ∀ {gap rest : Text},
    newText u = gap ++ rest → (∀ c ∈ gap, isBlank c = true) →
    (∀ c, rest.head? = some c → endsStatement c = true) → Trails u := by
  induction u with
  | nil =>
    intro gap rest _ _ _
    exact .nil
  | cons x u ih =>
    intro gap rest hText hGap hStop
    rw [List.mem_cons, not_or] at hMarker
    obtain ⟨c, hc⟩ : ∃ c, x.new = [c] := Stitch.exists_new_eq (Ne.symm hMarker.1)
    rw [newText_cons, hc, List.singleton_append] at hText
    have hNext : isBlank c = true ∧ Trails u ∨ endsStatement c = true := by
      cases gap with
      | nil =>
        rw [List.nil_append] at hText
        exact .inr (hStop c (by rw [← hText]; rfl))
      | cons g gap =>
        obtain ⟨rfl, hRest⟩ := List.cons_eq_cons.mp hText
        obtain ⟨hBlank, hGap⟩ := List.forall_mem_cons.mp hGap
        exact .inl ⟨hBlank, ih hMarker.2 hRest hGap hStop⟩
    cases x with
    | kept d =>
      obtain rfl : d = c := by simpa [Stitch.new] using hc
      rcases hNext with ⟨hBlank, hRest⟩ | hEnds
      · exact .blank hBlank hRest
      · exact .stop hEnds
    | closing =>
      -- a parenthesis is neither blank nor the end of a statement
      obtain rfl : ')' = c := by simpa [Stitch.new] using hc
      rcases hNext with ⟨hBlank, -⟩ | hEnds
      · exact absurd hBlank (by decide)
      · exact absurd hEnds (by decide)
    | marker => exact absurd rfl hMarker.1

/-- A parenthesis put in further on does not matter to what trails. -/
theorem Trails.insert (h : Trails (u₁ ++ w₂)) (hw : Trails w₂) :
    Trails (u₁ ++ .closing :: w₂) := by
  induction u₁ with
  | nil => exact .closing hw
  | cons x u₁ ih =>
    cases h with
    | stop hEnds => exact .stop hEnds
    | blank hBlank hRest => exact .blank hBlank (ih hRest)
    | closing hRest => exact .closing (ih hRest)

/-- A parenthesis put in behind the text of a call fits. -/
theorem fits_callText (hBalanced : Balanced (newText (w₁ ++ w₂)))
    (hMarker : .marker ∉ w₁ ++ w₂) (hCall : newText w₁ = callText (newText (w₁ ++ w₂))) :
    Fits w₁ w₂ where
  balanced := by
    rw [hCall]
    exact balanced_callText hBalanced
  inside := by
    intro p c hp hEnds
    rw [hCall] at hp
    have hPart := hp.trans (Text.isPrefix_trimEnd _)
    have := callPart_inside hEnds _ 0 p hPart
    omega
  tight := by
    intro c hLast
    rw [hCall] at hLast
    exact Text.isBlank_of_getLast?_trimEnd hLast
  trails := by
    obtain ⟨gap, hGap, hPart⟩ := Text.exists_blanks_trimEnd (callPart 0 (newText (w₁ ++ w₂)))
    obtain ⟨rest, hText, hStop⟩ := callPart_stops (newText (w₁ ++ w₂)) 0
    rw [hPart, show Text.trimEnd _ = callText (newText (w₁ ++ w₂)) from rfl, ← hCall,
      newText_append, List.append_assoc] at hText
    rw [List.mem_append, not_or] at hMarker
    exact trails_of_newText hMarker.2 (List.append_cancel_left hText) hGap hStop

theorem Closes.append_left (h : Closes w k) (v : List Stitch) :
    Closes (v ++ w) ((oldText v).length + k) := by
  obtain ⟨x, m, u, rfl, rfl, hFits⟩ := h
  exact ⟨v ++ x, m, u, by simp, by simp, hFits⟩

/-- What is closed stays so when one more is opened before everything, and closed where
that fits: it is not put in between the two. -/
theorem Closes.enclose (h : Closes (w₁ ++ w₂) k) (hFits : Fits w₁ w₂) :
    Closes (enclose w₁ w₂) (k + 1) := by
  obtain ⟨v, m, u, hText, rfl, hIn⟩ := h
  -- a text that ends between the two leaves the first of them open
  have hOpen {x : List Stitch} (hx : newText x <+: newText m) :
      ¬ Balanced (newText (v ++ .kept '(' :: x)) := by
    intro hBalanced
    rw [newText_append] at hBalanced
    have hEnd := hBalanced.end_le
    have hWithin := hIn.balanced.opened _ hx
    simp only [newText_cons, Stitch.new, List.singleton_append, List.count_cons_self,
      List.count_cons_of_ne (show '(' ≠ ')' by decide)] at hEnd
    omega
  rcases List.append_eq_append_iff.mp hText with ⟨x, rfl, rfl⟩ | ⟨x, rfl, hRest⟩
  · -- the new one is in front of the call
    exact ⟨.kept '(' :: (w₁ ++ .closing :: x), m, u, by simp [Script.enclose],
      by simp [Stitch.old], hIn⟩
  rcases List.cons_eq_append_iff.mp hRest with ⟨rfl, rfl⟩ | ⟨x, rfl, hBehind⟩
  · exact ⟨.kept '(' :: (v ++ [.closing]), m, u, by simp [Script.enclose], by simp [Stitch.old],
      hIn⟩
  rcases List.append_eq_append_iff.mp hBehind with ⟨y, rfl, hEnd⟩ | ⟨y, rfl, rfl⟩
  · rcases List.cons_eq_append_iff.mp hEnd with ⟨rfl, rfl⟩ | ⟨y, rfl, rfl⟩
    · exact absurd hFits.balanced (hOpen (by simp))
    · -- the new one trails the one put in
      exact ⟨.kept '(' :: v, m, y ++ .closing :: w₂, by simp [Script.enclose], by simp [Stitch.old],
        hIn.balanced, hIn.inside, hIn.tight, hIn.trails.insert hFits.trails⟩
  · exact absurd hFits.balanced (hOpen (by simp))

-- ---------------------------------------------------------------------------
-- All issues
-- ---------------------------------------------------------------------------

/-- Without markers a repaired script can be cut everywhere. -/
theorem exists_cut_stitches (hMarker : .marker ∉ w) : ∀ {p : Text}, p <+: newText w →
    ∃ w₁ w₂, w = w₁ ++ w₂ ∧ newText w₁ = p := by
  induction w with
  | nil =>
    intro p hp
    exact ⟨[], [], rfl, (List.prefix_nil.mp hp).symm⟩
  | cons x w ih =>
    intro p hp
    rw [List.mem_cons, not_or] at hMarker
    obtain ⟨c, hc⟩ := Stitch.exists_new_eq (Ne.symm hMarker.1)
    rw [newText_cons, hc, List.singleton_append] at hp
    rcases List.prefix_cons_iff.mp hp with rfl | ⟨p, rfl, hRest⟩
    · exact ⟨[], x :: w, rfl, rfl⟩
    · obtain ⟨w₁, w₂, rfl, rfl⟩ := ih hMarker.2 hRest
      exact ⟨x :: w₁, w₂, rfl, by rw [newText_cons, hc, List.singleton_append]⟩

theorem countP_kept (b : Text) : (b.map Stitch.kept).countP Stitch.isRepair = 0 := by
  rw [List.countP_eq_zero]
  intro x hx
  obtain ⟨c, -, rfl⟩ := List.mem_map.mp hx
  simp [Stitch.isRepair]

/-- Opening parentheses closed from the last to the first, behind a text `a` that is
left alone. -/
theorem LeftOpen.exists_stitches {js : List Nat} (h : LeftOpen i t js) :
    ∀ (a : Text), a.length = i → ∃ w, Sound w ∧ .marker ∉ w ∧ oldText w = t ∧
      w.countP Stitch.isRepair = js.length ∧ (∀ j ∈ js, ∃ k, j = i + k ∧ Closes w k) ∧
      (js.map fun (j : Nat) => (⟨.missingClose, (j : Int)⟩ : ParenIssue)).foldr
        (fun issue s => mendParen s issue) (a ++ t) = a ++ newText w := by
  induction h with
  | @none i b hb =>
    intro a _
    exact ⟨b.map .kept, sound_kept hb, by simp, oldText_kept b, countP_kept b, by simp,
      by rw [newText_kept]; rfl⟩
  | @some i j b t js hb hPlace hRest ih =>
    intro a ha
    have hLength : (a ++ b ++ ['(']).length = j + 1 := by
      simp
      omega
    obtain ⟨w, hSound, hMarker, hOld, hCount, hCloses, hFold⟩ := ih (a ++ b ++ ['(']) hLength
    obtain ⟨w₁, w₂, rfl, hCall⟩ := exists_cut_stitches hMarker (isPrefix_callText (newText w))
    have hFirst : Balanced (newText w₁) := by
      rw [hCall]
      exact balanced_callText hSound.balanced
    have hApart : Apart ['('] (oldText (w₁ ++ w₂)) := by
      rw [hOld]
      exact apart_open hRest.opened
    have hSewn : Sound (b.map .kept ++ enclose w₁ w₂) := by
      refine (sound_kept hb).append (hSound.close hFirst hApart) ?_
      rw [oldText_kept]
      exact apart_of_balanced hb _
    have hFits : Fits w₁ w₂ := fits_callText hSound.balanced hMarker hCall
    refine ⟨_, hSewn, ?_, ?_, ?_, ?_, ?_⟩
    · rw [List.mem_append, not_or] at hMarker
      simp [enclose, hMarker]
    · rw [oldText_append, oldText_kept, oldText_enclose, hOld]
    · rw [List.countP_append] at hCount
      rw [enclose, List.countP_append, countP_kept, List.countP_cons_of_neg (by decide),
        List.countP_append, List.countP_cons_of_pos (by decide), List.length_cons]
      omega
    · have hSewnOn {k : Nat} (h : Closes (enclose w₁ w₂) k) :
          Closes (b.map .kept ++ enclose w₁ w₂) (b.length + k) := by
        have hLeft := h.append_left (b.map .kept)
        rwa [oldText_kept] at hLeft
      refine List.forall_mem_cons.mpr ⟨⟨_, hPlace, hSewnOn ⟨[], w₁, w₂, rfl, rfl, hFits⟩⟩, ?_⟩
      intro l hl
      obtain ⟨k, rfl, hk⟩ := hCloses l hl
      exact ⟨b.length + (k + 1), by omega, hSewnOn (hk.enclose hFits)⟩
    · have hText : a ++ (b ++ '(' :: t) = a ++ b ++ ['('] ++ t := by simp
      have hPlace' : (j : Int) = ((a ++ b).length : Int) := by
        rw [List.length_append]
        omega
      have hBehind : (newText (w₁ ++ w₂)).drop (callText (newText (w₁ ++ w₂))).length =
          newText w₂ := by
        rw [← hCall, newText_append, List.drop_left]
      rw [List.map_cons, List.foldr_cons, hText, hFold, List.append_assoc (a ++ b), hPlace',
        List.singleton_append, mendParen_missing, hBehind, ← hCall, newText_append, newText_kept,
        newText_enclose, List.append_assoc]

/-- All issues mended from the last to the first, behind a text `a` that is left
alone. -/
theorem Unmatched.exists_stitches {issues : List ParenIssue} (h : Unmatched i t issues) :
    ∀ (a : Text), a.length = i → ∃ w, Sound w ∧ oldText w = t ∧
      w.countP Stitch.isRepair = issues.length ∧
      (∀ k : Int, ⟨.missingClose, k⟩ ∈ issues → ∃ n : Nat, k = (i + n : Nat) ∧ Closes w n) ∧
      issues.foldr (fun issue s => mendParen s issue) (a ++ t) = a ++ newText w := by
  induction h with
  | opens hOpen =>
    intro a ha
    obtain ⟨w, hSound, -, hOld, hCount, hCloses, hFold⟩ := hOpen.exists_stitches a ha
    refine ⟨w, hSound, hOld, by rw [hCount, List.length_map], ?_, hFold⟩
    intro k hk
    obtain ⟨j, hj, hSame⟩ := List.mem_map.mp hk
    obtain ⟨n, rfl, hn⟩ := hCloses j hj
    exact ⟨n, (ParenIssue.mk.inj hSame).2.symm, hn⟩
  | @stray i j b t issues hb hPlace _ ih =>
    intro a ha
    have hLength : (a ++ b ++ [')']).length = j + 1 := by
      simp
      omega
    obtain ⟨w, hSound, hOld, hCount, hCloses, hFold⟩ := ih (a ++ b ++ [')']) hLength
    have hSewn : Sound (b.map .kept ++ ([.marker] ++ w)) := by
      refine (sound_kept hb).append (sound_marker.append hSound (apart_close _)) ?_
      rw [oldText_kept]
      exact apart_of_balanced hb _
    refine ⟨_, hSewn, ?_, ?_, ?_, ?_⟩
    · simp [Stitch.old, hOld]
    · rw [List.countP_append, countP_kept, List.singleton_append,
        List.countP_cons_of_pos (by decide), hCount, List.length_cons, Nat.zero_add]
    · intro k hk
      have hLater : ⟨.missingClose, k⟩ ∈ issues := by simpa using hk
      obtain ⟨n, rfl, hn⟩ := hCloses k hLater
      refine ⟨_, ?_, (hn.append_left [.marker]).append_left (b.map .kept)⟩
      rw [oldText_kept, show (oldText [Stitch.marker]).length = 1 from rfl]
      omega
    · have hText : a ++ (b ++ ')' :: t) = a ++ b ++ [')'] ++ t := by simp
      have hPlace' : (j : Int) = ((a ++ b).length : Int) := by
        rw [List.length_append]
        omega
      rw [List.foldr_cons, hText, hFold, List.append_assoc (a ++ b), hPlace',
        List.singleton_append, mendParen_stray]
      simp [Stitch.new]

end Script

end SketchRepair
