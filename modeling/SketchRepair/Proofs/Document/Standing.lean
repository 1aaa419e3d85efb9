import SketchRepair.Proofs.Document.Revision

/-!
# SketchRepair — the scripts that are still ahead

Whoever goes through the scripts of a page and changes them on the way has to look them
up again behind every change. What a script is known by then is not its offset, which
the changes before it have moved, but what stands behind it. The text behind a script
is its alone, and it says which scripts are still ahead.

* `drop_standingScripts` — the page behind a script holds the scripts behind it;
* `drop_eq_of_head?` — so the next script tells all that are ahead;
* `drop_standingScripts_replaceContent` — a new content that holds no closing tag leaves the
  scripts behind it as they are.
-/

namespace SketchRepair

namespace Document

/-- A script that is not blank, and the text of the page behind it. -/
structure Standing where
  content : Text
  behind : Text
  deriving DecidableEq, Repr

def Element.standing (e : Element) (page : Text) : Standing := ⟨e.content, page.drop e.endOffset⟩

/-- The scripts of a page that are not blank, each with the text behind it. -/
def standingScripts (page : Text) : List Standing := (inlineScripts page).map (·.standing page)

/-- The scripts that pieces hold before a tail. -/
def standingIn (tail : Text) : List Piece → List Standing
  | [] => []
  | p :: ps =>
    if Text.allBlank p.content then standingIn tail ps
    else ⟨p.content, assemble ps tail⟩ :: standingIn tail ps

variable {page tail : Text} {ps : List Piece} {e : Element} {i : Nat}

theorem assemble_cons (p : Piece) (ps : List Piece) (tail : Text) :
    assemble (p :: ps) tail = p.text ++ assemble ps tail := by
  simp [assemble]

-- ---------------------------------------------------------------------------
-- Scripts and pieces
-- ---------------------------------------------------------------------------

theorem standing_locate (tail : Text) (ps : List Piece) : ∀ (before : Text) (line : Nat),
    ((locate .script before.length line ps).filter (!·.isBlank)).map
        (·.standing (before ++ assemble ps tail)) = standingIn tail ps := by
  induction ps with
  | nil =>
    intro before line
    rfl
  | cons p ps ih =>
    intro before line
    have hRest := ih (before ++ p.text) (line + p.text.count '\n')
    rw [List.length_append, List.append_assoc, ← assemble_cons] at hRest
    rw [locate, standingIn, List.filter_cons]
    split
    · next hInhabited =>
      have hSolid : ¬ Text.allBlank p.content = true := by
        simpa [Element.isBlank] using hInhabited
      rw [if_neg hSolid, List.map_cons, hRest]
      congr 1
      have hEnd : (⟨.script, p.opening, p.content, p.closing, before.length + p.gap.length,
          line + p.gap.count '\n'⟩ : Element).endOffset = (before ++ p.text).length := by
        simp only [Element.endOffset, Element.text, Piece.text, List.length_append]
        omega
      rw [Element.standing, hEnd, assemble_cons, ← List.append_assoc, List.drop_left]
    · next hEmpty =>
      have hBlank : Text.allBlank p.content = true := by
        simpa [Element.isBlank] using hEmpty
      rw [if_pos hBlank, hRest]

theorem standingScripts_eq (page : Text) :
    standingScripts page = standingIn (dissect .script page).2 (dissect .script page).1 := by
  have hLocate := standing_locate (dissect .script page).2 (dissect .script page).1 [] 1
  rw [List.nil_append, assemble_dissect] at hLocate
  exact hLocate

theorem standingScripts_assemble (hPieces : ∀ p ∈ ps, p.IsElement .script)
    (hTail : IsTail .script tail) :
    standingScripts (assemble ps tail) = standingIn tail ps := by
  rw [standingScripts_eq, dissect_assemble hPieces hTail]

/-- There are no more scripts than characters in a page. -/
theorem length_standingScripts_le (page : Text) :
    (standingScripts page).length ≤ page.length := by
  have hIn (tail : Text) {ps : List Piece} (hPieces : ∀ p ∈ ps, p.opening ≠ []) :
      (standingIn tail ps).length ≤ (assemble ps tail).length := by
    induction ps with
    | nil => exact Nat.zero_le _
    | cons p ps ih =>
      have hOpening : 0 < p.opening.length :=
        List.length_pos_iff.mpr (hPieces p (List.mem_cons_self ..))
      have hRest := ih fun q hq => hPieces q (List.mem_cons_of_mem _ hq)
      rw [assemble_cons, standingIn]
      simp only [Piece.text, List.length_append]
      split
      · omega
      · rw [List.length_cons]
        omega
  have hPage := hIn (dissect .script page).2 fun p hp =>
    opening_ne_nil ((dissect_isElement .script page).1 p hp)
  rwa [← standingScripts_eq, assemble_dissect] at hPage

theorem drop_standingScripts_of_script (h : (inlineScripts page)[i]? = some e) :
    (standingScripts page).drop i = e.standing page :: (standingScripts page).drop (i + 1) := by
  have hStanding : (standingScripts page)[i]? = some (e.standing page) := by
    rw [standingScripts, List.getElem?_map, h, Option.map_some]
  obtain ⟨hi, hGet⟩ := List.getElem?_eq_some_iff.mp hStanding
  rw [List.drop_eq_getElem_cons hi, hGet]

theorem drop_standingScripts_of_end (h : (inlineScripts page)[i]? = none) :
    (standingScripts page).drop i = [] := by
  rw [List.drop_eq_nil_iff, standingScripts, List.length_map]
  exact List.getElem?_eq_none_iff.mp h

/-- The page behind a script holds the scripts behind it. -/
theorem drop_standingScripts {st : Standing} (h : (standingScripts page)[i]? = some st) :
    (standingScripts page).drop i = st :: standingScripts st.behind := by
  obtain ⟨hPieces, hTail⟩ := dissect_isElement .script page
  rw [standingScripts_eq] at h ⊢
  generalize (dissect .script page).1 = ps at h hPieces ⊢
  generalize (dissect .script page).2 = tail at h hTail ⊢
  induction ps generalizing i with
  | nil => simp [standingIn] at h
  | cons p ps ih =>
    have hRest : ∀ q ∈ ps, q.IsElement .script := fun q hq => hPieces q (List.mem_cons_of_mem _ hq)
    rw [standingIn] at h ⊢
    split at h
    · next hBlank =>
      rw [if_pos hBlank]
      exact ih hRest h
    · next hSolid =>
      rw [if_neg hSolid]
      cases i with
      | zero =>
        rw [List.getElem?_cons_zero, Option.some.injEq] at h
        subst h
        rw [List.drop_zero, standingScripts_assemble hRest hTail]
      | succ i => exact ih hRest h

/-- Which scripts are ahead is known from the next of them, in whatever page it stands. -/
theorem drop_eq_of_head? {page' : Text} {j : Nat}
    (h : ((standingScripts page).drop i).head? = ((standingScripts page').drop j).head?) :
    (standingScripts page).drop i = (standingScripts page').drop j := by
  rw [List.head?_drop, List.head?_drop] at h
  cases hNext : (standingScripts page)[i]? with
  | none =>
    rw [hNext] at h
    rw [List.drop_eq_nil_iff.mpr (List.getElem?_eq_none_iff.mp hNext),
      List.drop_eq_nil_iff.mpr (List.getElem?_eq_none_iff.mp h.symm)]
  | some st =>
    rw [hNext] at h
    rw [drop_standingScripts hNext, drop_standingScripts h.symm]

-- ---------------------------------------------------------------------------
-- New contents
-- ---------------------------------------------------------------------------

/-- A script stands in one of the pieces; those before it hold the scripts before it. -/
theorem exists_piece_of_located {ps : List Piece} : ∀ (before : Text) {line i : Nat},
    ((locate .script before.length line ps).filter (!·.isBlank))[i]? = some e →
      ∃ ps₁ p ps₂, ps = ps₁ ++ p :: ps₂ ∧ Text.allBlank p.content = false ∧
        (∀ tail qs, (standingIn tail (ps₁ ++ qs)).drop i = standingIn tail qs) ∧
        ∀ new tail, e.replaceContent new (before ++ assemble ps tail) =
          before ++ assemble (ps₁ ++ { p with content := new } :: ps₂) tail := by
  induction ps with
  | nil =>
    intro before line i h
    simp [locate] at h
  | cons p ps ih =>
    intro before line i h
    rw [locate, List.filter_cons] at h
    -- the script is in one of the pieces behind the first
    have hLater {j : Nat} (hj : ((locate .script (before.length + p.text.length)
        (line + p.text.count '\n') ps).filter (!·.isBlank))[j]? = some e)
        (hDrop : ∀ tail qs, (standingIn tail (p :: qs)).drop i = (standingIn tail qs).drop j) :
        ∃ ps₁ q ps₂, p :: ps = ps₁ ++ q :: ps₂ ∧ Text.allBlank q.content = false ∧
          (∀ tail qs, (standingIn tail (ps₁ ++ qs)).drop i = standingIn tail qs) ∧
          ∀ new tail, e.replaceContent new (before ++ assemble (p :: ps) tail) =
            before ++ assemble (ps₁ ++ { q with content := new } :: ps₂) tail := by
      rw [← List.length_append] at hj
      obtain ⟨ps₁, q, ps₂, rfl, hSolid, hBefore, hReplace⟩ := ih _ hj
      refine ⟨p :: ps₁, q, ps₂, rfl, hSolid, ?_, ?_⟩
      · intro tail qs
        exact (hDrop tail (ps₁ ++ qs)).trans (hBefore tail qs)
      · intro new tail
        have hNew := hReplace new tail
        rw [List.append_assoc, List.append_assoc, ← assemble_cons, ← assemble_cons] at hNew
        exact hNew
    split at h
    · next hInhabited =>
      have hSolid : Text.allBlank p.content = false := by
        simpa [Element.isBlank] using hInhabited
      cases i with
      | zero =>
        rw [List.getElem?_cons_zero, Option.some.injEq] at h
        subst h
        refine ⟨[], p, ps, rfl, hSolid, fun _ _ => rfl, ?_⟩
        intro new tail
        rw [assemble_cons, replaceContent_piece, List.nil_append, assemble_cons]
      | succ i =>
        refine hLater h ?_
        intro tail qs
        rw [standingIn, if_neg (by simp [hSolid]), List.drop_succ_cons]
    · next hEmpty =>
      have hBlank : Text.allBlank p.content = true := by
        simpa [Element.isBlank] using hEmpty
      refine hLater h ?_
      intro tail qs
      rw [standingIn, if_pos hBlank]

/-- How many of the pieces hold a script that is not blank. -/
def solid (ps : List Piece) : Nat := ps.countP fun p => !Text.allBlank p.content

theorem locate_append (ps qs : List Piece) : ∀ offset line, ∃ line',
    locate .script offset line (ps ++ qs) = locate .script offset line ps ++
      locate .script (offset + (ps.flatMap Piece.text).length) line' qs := by
  induction ps with
  | nil => exact fun offset line => ⟨line, rfl⟩
  | cons p ps ih =>
    intro offset line
    obtain ⟨line', hRest⟩ := ih (offset + p.text.length) (line + p.text.count '\n')
    refine ⟨line', ?_⟩
    have hOffset : offset + ((p :: ps).flatMap Piece.text).length =
        offset + p.text.length + (ps.flatMap Piece.text).length := by
      rw [List.flatMap_cons, List.length_append]
      omega
    rw [List.cons_append, locate, locate, hRest, hOffset, List.cons_append]

theorem length_filter_locate (ps : List Piece) (offset line : Nat) :
    ((locate .script offset line ps).filter (!·.isBlank)).length = solid ps := by
  have hContents : (locate .script offset line ps).map (·.content) = ps.map (·.content) :=
    map_content_locate ps offset line
  have hCount := congrArg (List.countP fun t => !Text.allBlank t) hContents
  rw [List.countP_map, List.countP_map] at hCount
  rw [← List.countP_eq_length_filter]
  exact hCount

/-- The script that a piece holds is found by the number of those before it, and with a
new content the piece is what changes. -/
theorem exists_script_of_piece {done rest : List Piece} {p : Piece}
    (hPieces : ∀ q ∈ done ++ p :: rest, q.IsElement .script) (hTail : IsTail .script tail)
    (hSolid : Text.allBlank p.content = false) :
    ∃ e, (inlineScripts (assemble (done ++ p :: rest) tail))[solid done]? = some e ∧
      e.content = p.content ∧ ∀ new, e.replaceContent new (assemble (done ++ p :: rest) tail) =
        assemble (done ++ { p with content := new } :: rest) tail := by
  obtain ⟨line, hLocate⟩ := locate_append done (p :: rest) 0 1
  rw [Nat.zero_add, locate] at hLocate
  refine ⟨⟨.script, p.opening, p.content, p.closing,
    (done.flatMap Piece.text).length + p.gap.length, line + p.gap.count '\n'⟩, ?_, rfl, ?_⟩
  · rw [inlineScripts, inhabited, elements, dissect_assemble hPieces hTail, hLocate,
      List.filter_append, ← length_filter_locate done 0 1,
      List.getElem?_append_right (Nat.le_refl _), Nat.sub_self,
      List.filter_cons_of_pos (by simp [Element.isBlank, hSolid]), List.getElem?_cons_zero]
  · intro new
    have hPage (q : Piece) : assemble (done ++ q :: rest) tail =
        done.flatMap Piece.text ++ (q.text ++ assemble rest tail) := by
      simp [assemble]
    rw [hPage, hPage, replaceContent_piece]

theorem isContent_of_allBlank {tag : Tag} {new : Text} (h : Text.allBlank new = true) :
    IsContent tag new := by
  have hPlain : '<' ∉ new := by
    intro hMem
    have hBlank : isBlank '<' = true := List.all_eq_true.mp h '<' hMem
    revert hBlank
    decide
  intro hInfix
  refine Text.lt_not_mem_map_fold hPlain (hInfix.subset ?_)
  rw [tag.closer_eq]
  exact List.mem_cons_self ..

/-- A content without a closing tag leaves the scripts behind it as they are. If it is
blank, its own script is none any more. -/
theorem drop_standingScripts_replaceContent {new : Text} (h : (inlineScripts page)[i]? = some e)
    (hContent : IsContent .script new) :
    (standingScripts (e.replaceContent new page)).drop i =
      if Text.allBlank new then (standingScripts page).drop (i + 1)
      else ⟨new, (e.standing page).behind⟩ :: (standingScripts page).drop (i + 1) := by
  obtain ⟨hPieces, hTail⟩ := dissect_isElement .script page
  obtain ⟨ps₁, p, ps₂, hps, hOld, hBefore, hReplace⟩ := exists_piece_of_located [] h
  have hNew := hReplace new (dissect .script page).2
  rw [List.nil_append, List.nil_append, assemble_dissect] at hNew
  rw [hps] at hPieces
  have hPiece : p.IsElement .script := hPieces p (by simp)
  have hRevised : ∀ q ∈ ps₁ ++ { p with content := new } :: ps₂, q.IsElement .script := by
    intro q hq
    rcases List.mem_append.mp hq with hq | hq
    · exact hPieces q (List.mem_append_left _ hq)
    · rcases List.mem_cons.mp hq with rfl | hq
      · exact ⟨hPiece.gap, hPiece.opening, hContent, hPiece.closing⟩
      · exact hPieces q (List.mem_append_right _ (List.mem_cons_of_mem _ hq))
  -- the same pieces are ahead in both pages
  have hHere := drop_standingScripts_of_script h
  rw [standingScripts_eq page, hps, hBefore, standingIn, if_neg (by simp [hOld]),
    List.cons.injEq] at hHere
  obtain ⟨hStanding, hAhead⟩ := hHere
  rw [hNew, standingScripts_assemble hRevised hTail, hBefore, standingIn, standingScripts_eq page,
    hps, ← hAhead, ← hStanding]

end Document

end SketchRepair
