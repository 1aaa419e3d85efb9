import SketchRepair.Proofs.Document.Regapped
import SketchRepair.Proofs.Text.Replacement

/-!
# SketchRepair — replacing texts outside of elements

A text that is replaced outside of the elements of a page stands in a gap, or behind the
last element. So the page with its replacements is the page with other gaps, and what
becomes of its elements depends on what becomes of each gap.

* `Outside` — a place of a page that touches none of its elements;
* `regapped_replaceEach` — all matches replaced, each of them outside;
* `regapped_of_local`, `regapped_of_sealed` — by what the matches see, or by what takes
  their place;
* `regapped_splice` — one text replaced.
-/

namespace SketchRepair

namespace Document

open Text (Segment Swaps segments places placesFrom replaceEach)

variable {tag : Tag} {page : Text} {ps : List Piece} {tail : Text}

/-- The place, given by its first offset and the one behind, touches no element of the
page. -/
def Outside (tag : Tag) (page : Text) (place : Nat × Nat) : Prop :=
  ∀ e ∈ elements tag page, place.2 ≤ e.offset ∨ e.endOffset ≤ place.1

instance (tag : Tag) (page : Text) (place : Nat × Nat) : Decidable (Outside tag page place) :=
  inferInstanceAs (Decidable (∀ e ∈ elements tag page, place.2 ≤ e.offset ∨ e.endOffset ≤ place.1))

theorem assemble_cons_own (p : Piece) (ps : List Piece) (tail : Text) :
    assemble (p :: ps) tail = p.gap ++ (p.own ++ assemble ps tail) := by
  simp [assemble, Piece.text, Piece.own]

theorem endOffset_eq (tag : Tag) (p : Piece) (offset line : Nat) :
    (⟨tag, p.opening, p.content, p.closing, offset, line⟩ : Element).endOffset =
      offset + p.own.length := rfl

-- ---------------------------------------------------------------------------
-- All matches
-- ---------------------------------------------------------------------------

/-- Segments that keep clear of an element replace nothing in it. -/
theorem new_eq_of_outside {segs : List Segment} {own : Text} {i : Nat}
    (hSolid : ∀ old new, .swapped old new ∈ segs → old ≠ [])
    (hOld : segs.flatMap Segment.old = own)
    (hPlaces : ∀ place ∈ placesFrom i segs, place.2 ≤ i ∨ i + own.length ≤ place.1) :
    segs.flatMap Segment.new = own := by
  rw [Text.new_eq_old, hOld]
  intro old new hMem
  obtain ⟨place, hPlace, hFrom, hNonempty, hTo⟩ :=
    Text.exists_place_of_mem (hSolid old new hMem) (i := i) hMem
  have := hPlaces place hPlace
  rw [hOld] at hTo
  omega

theorem regapped_of_places {m : Text → Option (Text × Text)} {P : Text → Text → Prop}
    (hm : Swaps m P) (ps : List Piece) (tail : Text) (hGaps : ∀ p ∈ ps, ∀ rest a b,
      segments m (p.gap ++ rest) = a ++ b → a.flatMap Segment.old = p.gap →
        Closed tag (a.flatMap Segment.new)) :
    ∀ (i line : Nat), (∀ place ∈ placesFrom i (segments m (assemble ps tail)),
        ∀ e ∈ locate tag i line ps, place.2 ≤ e.offset ∨ e.endOffset ≤ place.1) →
      Regapped tag ps ((segments m (assemble ps tail)).flatMap Segment.new) := by
  induction ps with
  | nil => exact fun _ _ _ => .nil
  | cons p ps ih =>
    intro i line hOutside
    obtain ⟨hGap, hRest⟩ := List.forall_mem_cons.mp hGaps
    have hText := Text.segments_old hm (assemble (p :: ps) tail)
    have hSolid (old new : Text) (hMem : .swapped old new ∈ segments m (assemble (p :: ps) tail)) :
        old ≠ [] := (Text.swapped_of_mem_segments hm hMem).1
    rw [locate] at hOutside
    rw [assemble_cons_own] at hText hOutside hSolid ⊢
    generalize hSegs : segments m (p.gap ++ (p.own ++ assemble ps tail)) = segs at *
    -- before the element
    obtain ⟨a, b, rfl, ha, hb⟩ := Text.exists_cut hSolid (i := i) hText (by
      intro place hPlace
      have := hOutside place hPlace _ (List.mem_cons_self ..)
      rw [endOffset_eq] at this
      dsimp only at this
      omega)
    rw [Text.placesFrom_append, ha] at hOutside
    -- behind the element
    obtain ⟨c, d, rfl, hc, hd⟩ := Text.exists_cut
      (fun old new hMem => hSolid old new (List.mem_append_right a hMem))
      (i := i + p.gap.length) hb (by
        intro place hPlace
        have := hOutside place (List.mem_append_right _ hPlace) _ (List.mem_cons_self ..)
        rw [endOffset_eq] at this
        dsimp only at this
        omega)
    rw [Text.placesFrom_append, hc] at hOutside
    have hOwn : c.flatMap Segment.new = p.own := by
      refine new_eq_of_outside (i := i + p.gap.length) (fun old new hMem => hSolid old new
        (List.mem_append_right a (List.mem_append_left d hMem))) hc ?_
      intro place hPlace
      have := hOutside place (List.mem_append_right _ (List.mem_append_left _ hPlace)) _
        (List.mem_cons_self ..)
      rw [endOffset_eq] at this
      exact this
    obtain ⟨hBehind, -⟩ := Text.segments_append hm hSegs ha
    obtain ⟨hLater, -⟩ := Text.segments_append hm hBehind.symm hc
    rw [List.flatMap_append, List.flatMap_append, hOwn]
    refine .cons (hGap _ a (c ++ d) hSegs ha) ?_
    rw [hLater]
    refine ih hRest (i + p.text.length) (line + p.text.count '\n') ?_
    intro place hPlace e he
    refine hOutside place (List.mem_append_right _ (List.mem_append_right _ ?_)) e
      (List.mem_cons_of_mem _ he)
    rw [hLater]
    have hOffset : i + p.gap.length + p.own.length = i + p.text.length := by
      rw [Piece.text_eq, List.length_append]
      omega
    rw [hOffset]
    exact hPlace

/-- All matches replaced outside of the elements: the page has other gaps, each with its
matches replaced. -/
theorem regapped_replaceEach {m : Text → Option (Text × Text)} {P : Text → Text → Prop}
    (hm : Swaps m P) (hOutside : ∀ place ∈ places m page, Outside tag page place)
    (hGaps : ∀ p ∈ (dissect tag page).1, ∀ rest a b, segments m (p.gap ++ rest) = a ++ b →
      a.flatMap Segment.old = p.gap → Closed tag (a.flatMap Segment.new)) :
    Regapped tag (dissect tag page).1 (replaceEach m page).1 := by
  have hRegapped := regapped_of_places hm _ (dissect tag page).2 hGaps 0 1
  rw [assemble_dissect, Text.segments_new] at hRegapped
  exact hRegapped hOutside

/-- If no match looks further than it reaches, each gap is replaced on its own. -/
theorem regapped_of_local {m : Text → Option (Text × Text)} {P : Text → Text → Prop}
    (hm : Swaps m P) (hLocal : Text.Local m)
    (hOutside : ∀ place ∈ places m page, Outside tag page place)
    (hGaps : ∀ p ∈ (dissect tag page).1, Closed tag (replaceEach m p.gap).1) :
    Regapped tag (dissect tag page).1 (replaceEach m page).1 := by
  refine regapped_replaceEach hm hOutside ?_
  intro p hp rest a b hSegs hOld
  rw [(Text.segments_append hm hSegs hOld).2 hLocal, Text.segments_new]
  exact hGaps p hp

/-- New texts that begin with a bracket complete no tag that was begun before them. -/
theorem prefix_old_of_prefix_new {segs : List Segment} {q : Text} (hq : '<' ∉ q)
    (hNew : ∀ old new, .swapped old new ∈ segs → new.head? = some '<')
    (h : q <+: (segs.flatMap Segment.new).map fold) :
    q <+: (segs.flatMap Segment.old).map fold := by
  induction segs generalizing q with
  | nil => exact h
  | cons seg segs ih =>
    cases q with
    | nil => exact List.nil_prefix
    | cons d q =>
      rw [List.mem_cons, not_or] at hq
      rw [List.flatMap_cons] at h ⊢
      cases seg with
      | kept c =>
        have h : d :: q <+: fold c :: (segs.flatMap Segment.new).map fold := h
        obtain ⟨hd, hLater⟩ := List.cons_prefix_cons.mp h
        exact List.cons_prefix_cons.mpr
          ⟨hd, ih hq.2 (fun old new hMem => hNew old new (List.mem_cons_of_mem _ hMem)) hLater⟩
      | swapped old new =>
        obtain ⟨x, rfl⟩ := List.head?_eq_some_iff.mp (hNew old new (List.mem_cons_self ..))
        exact absurd (List.cons_prefix_cons.mp h).1.symm hq.1

theorem closed_new {segs : List Segment}
    (hNew : ∀ old new, .swapped old new ∈ segs → new.head? = some '<' ∧ Sealed tag new)
    (hOld : ¬ tag.opener <:+: (segs.flatMap Segment.old).map fold) :
    Closed tag (segs.flatMap Segment.new) := by
  induction segs with
  | nil => exact closed_of_no_opener hOld
  | cons seg segs ih =>
    have hLater := fun old new hMem => hNew old new (List.mem_cons_of_mem seg hMem)
    have hRest : Closed tag (segs.flatMap Segment.new) := by
      refine ih hLater fun hInfix => hOld ?_
      rw [List.flatMap_cons, List.map_append]
      exact List.infix_append_of_infix_right hInfix
    intro s hs hOpener
    rw [List.flatMap_cons] at hs
    rcases Text.suffix_append_iff.mp hs with hs | ⟨r, hr, rfl⟩
    · exact hRest s hs hOpener
    · cases r with
      | nil => exact hRest _ (List.suffix_refl _) hOpener
      | cons d r =>
        cases seg with
        | swapped old new =>
          exact (hNew old new (List.mem_cons_self ..)).2 _ hr (List.cons_ne_nil d r) _ hOpener
        | kept c =>
          -- the tag would have been there before
          obtain ⟨rfl, rfl⟩ : d = c ∧ r = [] := by
            rcases List.suffix_cons_iff.mp hr with hHere | hNil
            · exact List.cons.inj hHere
            · exact absurd (List.suffix_nil.mp hNil) (List.cons_ne_nil d r)
          rw [tag.opener_eq] at hOpener hOld
          have hOpener : '<' :: tag.name <+: fold d :: (segs.flatMap Segment.new).map fold :=
            hOpener
          obtain ⟨hd, hName⟩ := List.cons_prefix_cons.mp hOpener
          have hName := prefix_old_of_prefix_new tag.lt_not_mem_name
            (fun old new hMem => (hLater old new hMem).1) hName
          exact absurd (List.cons_prefix_cons.mpr ⟨hd, hName⟩).isInfix hOld

/-- Matches replaced by sealed texts that begin with a bracket. -/
theorem regapped_of_sealed {m : Text → Option (Text × Text)} {P : Text → Text → Prop}
    (hm : Swaps m P) (hNew : ∀ old new, P old new → new.head? = some '<' ∧ Sealed tag new)
    (hOutside : ∀ place ∈ places m page, Outside tag page place) :
    Regapped tag (dissect tag page).1 (replaceEach m page).1 := by
  refine regapped_replaceEach hm hOutside ?_
  intro p hp rest a b hSegs hOld
  refine closed_new (fun old new hMem => ?_) ?_
  · have hMem : .swapped old new ∈ segments m (p.gap ++ rest) :=
      hSegs ▸ List.mem_append_left b hMem
    exact hNew old new (Text.swapped_of_mem_segments hm hMem).2
  · rw [hOld]
    exact ((dissect_isElement tag page).1 p hp).gap

-- ---------------------------------------------------------------------------
-- One text
-- ---------------------------------------------------------------------------

/-- A page is made of its own gaps, which hold no opening tags. -/
theorem regapped_self (hPieces : ∀ p ∈ ps, p.IsElement tag) :
    Regapped tag ps (assemble ps tail) := by
  induction ps with
  | nil => exact .nil
  | cons p ps ih =>
    obtain ⟨hHere, hLater⟩ := List.forall_mem_cons.mp hPieces
    rw [assemble_cons_own]
    exact .cons (closed_of_no_opener hHere.gap) (ih hLater)

theorem regapped_of_place {old new behind : Text} (ps : List Piece) (tail : Text)
    (hPieces : ∀ p ∈ ps, p.IsElement tag) :
    ∀ {before : Text} (i line : Nat), assemble ps tail = before ++ (old ++ behind) →
      (∀ e ∈ locate tag i line ps, i + before.length + old.length ≤ e.offset ∨
        e.endOffset ≤ i + before.length) →
      (∀ x y, x = [] ∨ x.getLast? = before.getLast? →
        ¬ tag.opener <:+: (x ++ (old ++ y)).map fold → Closed tag (x ++ (new ++ y))) →
      Regapped tag ps (before ++ (new ++ behind)) := by
  induction ps with
  | nil => exact fun _ _ _ _ _ => .nil
  | cons p ps ih =>
    intro before i line hText hOutside hGap
    obtain ⟨hHere, hLater⟩ := List.forall_mem_cons.mp hPieces
    rw [locate] at hOutside
    obtain ⟨hFirst, hRest⟩ := List.forall_mem_cons.mp hOutside
    rw [endOffset_eq] at hFirst
    rw [assemble_cons_own] at hText
    rcases hFirst with hInside | hBeyond
    · -- in the gap before the element
      have hPrefix : before ++ old <+: p.gap := by
        refine List.prefix_of_prefix_length_le ⟨behind, ?_⟩ ⟨_, hText⟩ ?_
        · rw [List.append_assoc]
        · rw [List.length_append]
          dsimp only at hInside
          omega
      obtain ⟨y, hy⟩ := hPrefix
      have hBehind : behind = y ++ (p.own ++ assemble ps tail) := by
        rw [← hy, List.append_assoc, List.append_assoc] at hText
        exact (List.append_cancel_left (List.append_cancel_left hText)).symm
      rw [hBehind, ← List.append_assoc new, ← List.append_assoc before]
      refine .cons (hGap before y (.inr rfl) ?_) (regapped_self hLater)
      rw [← List.append_assoc, hy]
      exact hHere.gap
    · -- behind the element
      have hPrefix : p.gap ++ p.own <+: before := by
        have hPage : before <+: p.gap ++ (p.own ++ assemble ps tail) := ⟨_, hText.symm⟩
        refine List.prefix_of_prefix_length_le ⟨assemble ps tail, ?_⟩ hPage ?_
        · rw [List.append_assoc]
        · rw [List.length_append]
          omega
      obtain ⟨before', rfl⟩ := hPrefix
      rw [List.append_assoc, List.append_assoc, List.append_cancel_left_eq,
        List.append_cancel_left_eq] at hText
      rw [List.append_assoc, List.append_assoc]
      refine .cons (closed_of_no_opener hHere.gap)
        (ih hLater (i + p.text.length) (line + p.text.count '\n') hText ?_ ?_)
      · intro e he
        have := hRest e he
        rw [Piece.text_eq]
        simp only [List.length_append] at this ⊢
        omega
      · intro x y hLast
        refine hGap x y (hLast.elim .inl fun hLast => ?_)
        rcases List.eq_nil_or_concat before' with rfl | ⟨_, c, rfl⟩
        · exact .inl (List.getLast?_eq_none_iff.mp hLast)
        · right
          rw [hLast, List.concat_eq_append, ← List.append_assoc, List.getLast?_concat,
            List.getLast?_concat]

/-- A text replaced outside of the elements: the gap that it stands in changes. -/
theorem regapped_splice {before behind : Text} (old new : Text)
    (hOutside : Outside tag (before ++ (old ++ behind)) (before.length, before.length + old.length))
    (hGap : ∀ x y, x = [] ∨ x.getLast? = before.getLast? →
      ¬ tag.opener <:+: (x ++ (old ++ y)).map fold → Closed tag (x ++ (new ++ y))) :
    Regapped tag (dissect tag (before ++ (old ++ behind))).1 (before ++ (new ++ behind)) := by
  refine regapped_of_place _ (dissect tag (before ++ (old ++ behind))).2
    (dissect_isElement tag _).1 0 1 (assemble_dissect tag _) ?_ hGap
  intro e he
  have := hOutside e he
  dsimp only at this
  omega

end Document

end SketchRepair
