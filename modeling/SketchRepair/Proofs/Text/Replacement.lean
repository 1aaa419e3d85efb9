import Mathlib.Data.List.Basic
import SketchRepair.Proofs.Text.Occurrence
import SketchRepair.Text.Search

/-!
# SketchRepair — what replacing all matches does

When all matches in a text are replaced, the text comes apart into segments: characters
that are kept, and matches, each with what takes its place. The segments say where
something is replaced. A place that no match runs across cuts them in two.

* `segments_old`, `segments_new` — the segments make up the text, before and behind
  the replacements;
* `swapped_of_mem_segments` — what is known of every match;
* `exists_cut` — the segments on the two sides of a place;
* `segments_append` — and what they are segments of;
* `count_replaceEach` — replacements that use up a character;
* `count_eq_zero_iff`, `replaceEach_eq_self` — nothing is replaced where nothing matches;
* `exists_of_suffix_new`, `exists_kept_of_new`, `eq_none_of_kept` — what stands in the
  text behind the replacement, read back to the text before it.
-/

namespace SketchRepair

namespace Text

/-- A part of a text in which matches are replaced. -/
inductive Segment where
  | kept (c : Char)
  | swapped (old new : Text)

namespace Segment

/-- The text before the replacement. -/
def old : Segment → Text
  | kept c => [c]
  | swapped old _ => old

/-- The text behind the replacement. -/
def new : Segment → Text
  | kept c => [c]
  | swapped _ new => new

def isSwapped : Segment → Bool
  | kept _ => false
  | swapped .. => true

end Segment

/-- What the matcher takes in stands at the beginning of the text and is not empty;
`P` holds of it and of what takes its place. -/
def Swaps (m : Text → Option (Text × Text)) (P : Text → Text → Prop) : Prop :=
  ∀ ⦃t new rest : Text⦄, m t = some (new, rest) → ∃ old, t = old ++ rest ∧ old ≠ [] ∧ P old new

theorem Swaps.mono {m : Text → Option (Text × Text)} {P Q : Text → Text → Prop} (hm : Swaps m P)
    (h : ∀ old new, P old new → Q old new) : Swaps m Q := by
  intro t new rest hFound
  obtain ⟨old, ht, hne, hP⟩ := hm hFound
  exact ⟨old, ht, hne, h old new hP⟩

theorem Swaps.and {m : Text → Option (Text × Text)} {P Q : Text → Text → Prop} (hP : Swaps m P)
    (hQ : Swaps m Q) : Swaps m fun old new => P old new ∧ Q old new := by
  intro t new rest hFound
  obtain ⟨old, rfl, hne, hHere⟩ := hP hFound
  obtain ⟨other, hText, -, hThere⟩ := hQ hFound
  obtain rfl := List.append_cancel_right hText
  exact ⟨old, rfl, hne, hHere, hThere⟩

/-- The segments of a text, of which so many characters are still covered by the last
match. -/
def segmentsFrom (m : Text → Option (Text × Text)) : (covered : Nat) → Text → List Segment
  | _, [] => []
  | covered + 1, _ :: t => segmentsFrom m covered t
  | 0, c :: t =>
    match m (c :: t) with
    | some (new, rest) =>
      .swapped ((c :: t).take ((c :: t).length - rest.length)) new ::
        segmentsFrom m (t.length - rest.length) t
    | none => .kept c :: segmentsFrom m 0 t

/-- The segments of a text in which all matches are replaced. -/
def segments (m : Text → Option (Text × Text)) (t : Text) : List Segment := segmentsFrom m 0 t

/-- Where something is replaced, as pairs of first offset and offset behind. -/
def placesFrom : (offset : Nat) → List Segment → List (Nat × Nat)
  | _, [] => []
  | offset, .kept _ :: rest => placesFrom (offset + 1) rest
  | offset, .swapped old _ :: rest =>
    (offset, offset + old.length) :: placesFrom (offset + old.length) rest

/-- The places in a text where matches are replaced. -/
def places (m : Text → Option (Text × Text)) (t : Text) : List (Nat × Nat) :=
  placesFrom 0 (segments m t)

variable {m : Text → Option (Text × Text)} {P : Text → Text → Prop} {t u v : Text} {c : Char}

-- ---------------------------------------------------------------------------
-- The text in segments
-- ---------------------------------------------------------------------------

theorem segmentsFrom_new (m : Text → Option (Text × Text)) (t : Text) : ∀ covered : Nat,
    ((segmentsFrom m covered t).flatMap Segment.new, (segmentsFrom m covered t).countP
      Segment.isSwapped) = replaceEachFrom m covered t := by
  induction t with
  | nil =>
    intro covered
    cases covered <;> rfl
  | cons c t ih =>
    intro covered
    cases covered with
    | succ covered => exact ih covered
    | zero =>
      rw [segmentsFrom, replaceEachFrom]
      cases m (c :: t) with
      | none =>
        dsimp only
        rw [← ih 0]
        rfl
      | some found =>
        dsimp only
        rw [← ih (t.length - found.2.length), List.flatMap_cons, List.countP_cons]
        rfl

theorem segments_new (m : Text → Option (Text × Text)) (t : Text) :
    (segments m t).flatMap Segment.new = (replaceEach m t).1 :=
  congrArg Prod.fst (segmentsFrom_new m t 0)

theorem segmentsFrom_of_none (h : m (c :: t) = none) :
    segmentsFrom m 0 (c :: t) = .kept c :: segmentsFrom m 0 t := by
  rw [segmentsFrom, h]

/-- A match, and the text behind it of which the match still covers the beginning. -/
theorem segmentsFrom_of_some {new behind rest : Text}
    (h : m (c :: (behind ++ rest)) = some (new, rest)) :
    segmentsFrom m 0 (c :: (behind ++ rest)) =
      .swapped (c :: behind) new :: segmentsFrom m behind.length (behind ++ rest) := by
  have hLength : (c :: (behind ++ rest)).length - rest.length = (c :: behind).length := by
    simp only [List.length_cons, List.length_append]
    omega
  have hTake : (c :: (behind ++ rest)).take (c :: behind).length = c :: behind := by
    rw [← List.cons_append, List.take_left]
  have hCovered : (behind ++ rest).length - rest.length = behind.length := by
    rw [List.length_append]
    omega
  rw [segmentsFrom, h]
  dsimp only
  rw [hLength, hTake, hCovered]

theorem segmentsFrom_old (hm : Swaps m P) (t : Text) : ∀ covered : Nat,
    (segmentsFrom m covered t).flatMap Segment.old = t.drop covered ∧
      ∀ old new, .swapped old new ∈ segmentsFrom m covered t → old ≠ [] ∧ P old new := by
  induction t with
  | nil =>
    intro covered
    cases covered <;> exact ⟨rfl, fun _ _ h => absurd h List.not_mem_nil⟩
  | cons c t ih =>
    intro covered
    cases covered with
    | succ covered => exact ih covered
    | zero =>
      cases hFound : m (c :: t) with
      | none =>
        obtain ⟨hOld, hAll⟩ := ih 0
        rw [segmentsFrom_of_none hFound]
        refine ⟨?_, ?_⟩
        · rw [List.flatMap_cons, hOld]
          rfl
        · intro old new hMem
          rcases List.mem_cons.mp hMem with hHere | hLater
          · simp at hHere
          · exact hAll old new hLater
      | some found =>
        obtain ⟨new, rest⟩ := found
        obtain ⟨old, hText, hne, hP⟩ := hm hFound
        obtain ⟨d, behind, rfl⟩ := List.exists_cons_of_ne_nil hne
        rw [List.cons_append, List.cons.injEq] at hText
        obtain ⟨rfl, rfl⟩ := hText
        obtain ⟨hOld, hAll⟩ := ih behind.length
        rw [segmentsFrom_of_some hFound]
        refine ⟨?_, ?_⟩
        · rw [List.flatMap_cons, hOld, List.drop_left]
          rfl
        · intro old' new' hMem
          rcases List.mem_cons.mp hMem with hHere | hLater
          · obtain ⟨rfl, rfl⟩ := Segment.swapped.inj hHere
            exact ⟨hne, hP⟩
          · exact hAll old' new' hLater

theorem segments_old (hm : Swaps m P) (t : Text) : (segments m t).flatMap Segment.old = t :=
  (segmentsFrom_old hm t 0).1

theorem swapped_of_mem_segments (hm : Swaps m P) {old new : Text}
    (h : .swapped old new ∈ segments m t) : old ≠ [] ∧ P old new :=
  (segmentsFrom_old hm t 0).2 old new h

-- ---------------------------------------------------------------------------
-- Counting
-- ---------------------------------------------------------------------------

/-- Replacements that use up a character: there is less of it, by one for each. -/
theorem count_replaceEach (hm : Swaps m fun old new => new.count c < old.count c) (t : Text) :
    (replaceEach m t).1.count c + (replaceEach m t).2 ≤ t.count c := by
  have hSegments (segs : List Segment)
      (h : ∀ old new, .swapped old new ∈ segs → new.count c < old.count c) :
      (segs.flatMap Segment.new).count c + segs.countP Segment.isSwapped ≤
        (segs.flatMap Segment.old).count c := by
    induction segs with
    | nil => exact Nat.le_refl _
    | cons seg segs ih =>
      have hRest := ih fun old new hMem => h old new (List.mem_cons_of_mem _ hMem)
      rw [List.flatMap_cons, List.flatMap_cons, List.count_append, List.count_append,
        List.countP_cons]
      cases seg with
      | kept d =>
        simp only [Segment.new, Segment.old, Segment.isSwapped, Bool.false_eq_true, if_false]
        omega
      | swapped old new =>
        have hHere : new.count c < old.count c := h old new (List.mem_cons_self ..)
        simp only [Segment.new, Segment.old, Segment.isSwapped, if_true]
        omega
  have hAll := hSegments (segments m t) fun old new hMem => (swapped_of_mem_segments hm hMem).2
  have hNew := segmentsFrom_new m t 0
  rw [segments_old hm] at hAll
  rw [replaceEach, ← hNew]
  exact hAll

-- ---------------------------------------------------------------------------
-- Places
-- ---------------------------------------------------------------------------

theorem placesFrom_append (a b : List Segment) : ∀ i : Nat,
    placesFrom i (a ++ b) =
      placesFrom i a ++ placesFrom (i + (a.flatMap Segment.old).length) b := by
  induction a with
  | nil =>
    intro i
    rfl
  | cons seg a ih =>
    intro i
    cases seg with
    | kept d =>
      rw [List.cons_append, placesFrom, placesFrom, ih, List.flatMap_cons, List.length_append]
      congr 2
      simp only [Segment.old, List.length_singleton]
      omega
    | swapped old new =>
      rw [List.cons_append, placesFrom, placesFrom, ih, List.flatMap_cons, List.length_append,
        List.cons_append]
      congr 3
      simp only [Segment.old]
      omega

/-- A place that no match runs across cuts the segments in two. -/
theorem exists_cut {segs : List Segment} (hSolid : ∀ old new, .swapped old new ∈ segs → old ≠ []) :
    ∀ {i : Nat} {u v : Text}, segs.flatMap Segment.old = u ++ v →
      (∀ place ∈ placesFrom i segs, place.2 ≤ i + u.length ∨ i + u.length ≤ place.1) →
      ∃ a b, segs = a ++ b ∧ a.flatMap Segment.old = u ∧ b.flatMap Segment.old = v := by
  induction segs with
  | nil =>
    intro i u v h _
    obtain ⟨rfl, rfl⟩ := List.append_eq_nil_iff.mp h.symm
    exact ⟨[], [], rfl, rfl, rfl⟩
  | cons seg segs ih =>
    intro i u v h hPlaces
    have hRest := fun old new hMem => hSolid old new (List.mem_cons_of_mem seg hMem)
    cases u with
    | nil => exact ⟨[], seg :: segs, rfl, rfl, h⟩
    | cons d u =>
      cases seg with
      | kept c =>
        rw [List.flatMap_cons, Segment.old, List.cons_append, List.cons_append, List.nil_append,
          List.cons.injEq] at h
        obtain ⟨rfl, h⟩ := h
        obtain ⟨a, b, rfl, ha, hb⟩ := ih hRest (i := i + 1) h (by
          intro place hMem
          have := hPlaces place hMem
          rw [List.length_cons] at this
          omega)
        exact ⟨.kept c :: a, b, rfl, by rw [List.flatMap_cons, ha]; rfl, hb⟩
      | swapped old new =>
        have hne := hSolid old new (List.mem_cons_self ..)
        have hLength : old.length ≤ (d :: u).length := by
          have := hPlaces (i, i + old.length) (List.mem_cons_self ..)
          rw [List.length_cons] at this ⊢
          dsimp only at this
          omega
        rw [List.flatMap_cons] at h
        obtain ⟨u', hu⟩ := List.prefix_of_prefix_length_le (List.prefix_append old _)
          (h ▸ List.prefix_append (d :: u) v) hLength
        rw [← hu, List.append_assoc] at h
        obtain ⟨a, b, rfl, ha, hb⟩ := ih hRest (i := i + old.length)
          (List.append_cancel_left h) (by
            intro place hMem
            have := hPlaces place (List.mem_cons_of_mem _ hMem)
            rw [← hu, List.length_append] at this
            omega)
        exact ⟨.swapped old new :: a, b, rfl, by rw [List.flatMap_cons, ha]; exact hu, hb⟩

/-- A match stands within the text of its segments. -/
theorem exists_place_of_mem {segs : List Segment} {old new : Text} (hOld : old ≠ []) :
    ∀ {i : Nat}, .swapped old new ∈ segs → ∃ place ∈ placesFrom i segs,
      i ≤ place.1 ∧ place.1 < place.2 ∧ place.2 ≤ i + (segs.flatMap Segment.old).length := by
  have hLength := List.length_pos_iff.mpr hOld
  induction segs with
  | nil => exact fun h => absurd h List.not_mem_nil
  | cons seg segs ih =>
    intro i h
    rw [List.flatMap_cons, List.length_append]
    rcases List.mem_cons.mp h with rfl | hLater
    · refine ⟨(i, i + old.length), List.mem_cons_self .., Nat.le_refl _, ?_, ?_⟩
      · dsimp only
        omega
      · simp only [Segment.old]
        omega
    · cases seg with
      | kept c =>
        obtain ⟨place, hMem, hFrom, hNonempty, hTo⟩ := ih (i := i + 1) hLater
        refine ⟨place, hMem, by omega, hNonempty, ?_⟩
        simp only [Segment.old, List.length_singleton]
        omega
      | swapped first other =>
        obtain ⟨place, hMem, hFrom, hNonempty, hTo⟩ := ih (i := i + first.length) hLater
        refine ⟨place, List.mem_cons_of_mem _ hMem, by omega, hNonempty, ?_⟩
        simp only [Segment.old]
        omega

/-- Whether there is a match, and what takes its place, depends on the text of the match
only. -/
def Local (m : Text → Option (Text × Text)) : Prop :=
  ∀ ⦃t new rest : Text⦄, m t = some (new, rest) →
    ∃ old, t = old ++ rest ∧ ∀ r, m (old ++ r) = some (new, r)

theorem eq_nil_of_old_eq_nil {segs : List Segment}
    (hSolid : ∀ old new, .swapped old new ∈ segs → old ≠ [])
    (h : segs.flatMap Segment.old = []) : segs = [] := by
  cases segs with
  | nil => rfl
  | cons seg segs =>
    rw [List.flatMap_cons, List.append_eq_nil_iff] at h
    cases seg with
    | kept c => exact absurd h.1 (List.cons_ne_nil c [])
    | swapped old new => exact absurd h.1 (hSolid old new (List.mem_cons_self ..))

/-- What stands behind a cut are the segments of the text behind it; and what stands
before it are the segments of the text before it, if no match looks further. -/
theorem segmentsFrom_append (hm : Swaps m P) (u : Text) :
    ∀ {covered : Nat} {a b : List Segment}, segmentsFrom m covered (u ++ v) = a ++ b →
      a.flatMap Segment.old = u.drop covered → covered ≤ u.length →
        b = segments m v ∧ (Local m → a = segmentsFrom m covered u) := by
  induction u with
  | nil =>
    intro covered a b h hOld hCovered
    obtain rfl : covered = 0 := Nat.le_zero.mp hCovered
    obtain rfl : a = [] := by
      refine eq_nil_of_old_eq_nil (fun old new hMem => ?_) hOld
      exact ((segmentsFrom_old hm v 0).2 old new (h ▸ List.mem_append_left b hMem)).1
    exact ⟨h.symm, fun _ => rfl⟩
  | cons c u ih =>
    intro covered a b h hOld hCovered
    cases covered with
    | succ covered => exact ih h hOld (Nat.le_of_succ_le_succ hCovered)
    | zero =>
      rw [List.drop_zero] at hOld
      obtain ⟨seg, a, rfl⟩ : ∃ seg a', a = seg :: a' := by
        refine List.exists_cons_of_ne_nil ?_
        rintro rfl
        exact absurd hOld.symm (List.cons_ne_nil c u)
      rw [List.cons_append] at h
      rw [List.flatMap_cons] at hOld
      cases hFound : m (c :: (u ++ v)) with
      | none =>
        rw [segmentsFrom_of_none hFound, List.cons_append, List.cons.injEq] at h
        obtain ⟨rfl, h⟩ := h
        obtain ⟨hBehind, hBefore⟩ := ih h (List.cons.inj hOld).2 (Nat.zero_le _)
        refine ⟨hBehind, fun hLocal => ?_⟩
        have hNone : m (c :: u) = none := by
          rw [Option.eq_none_iff_forall_ne_some]
          rintro ⟨new, r⟩ hHere
          obtain ⟨old, hText, hAlways⟩ := hLocal hHere
          have hThere := hAlways (r ++ v)
          rw [← List.append_assoc, ← hText, List.cons_append, hFound] at hThere
          exact absurd hThere (by simp)
        rw [segmentsFrom_of_none hNone, hBefore hLocal]
      | some found =>
        obtain ⟨new, rest⟩ := found
        obtain ⟨old, hText, hne, -⟩ := hm hFound
        obtain ⟨d, behind, rfl⟩ := List.exists_cons_of_ne_nil hne
        rw [List.cons_append, List.cons.injEq] at hText
        obtain ⟨rfl, hText⟩ := hText
        rw [hText] at h hFound
        rw [segmentsFrom_of_some hFound, List.cons_append, List.cons.injEq, ← hText] at h
        obtain ⟨rfl, h⟩ := h
        -- what is left of the text before the cut stands behind the match
        obtain rfl : u = behind ++ a.flatMap Segment.old := (List.cons.inj hOld).2.symm
        obtain ⟨hBehind, hBefore⟩ := ih h List.drop_left.symm (by simp)
        refine ⟨hBehind, fun hLocal => ?_⟩
        obtain ⟨old, hSame, hAlways⟩ := hLocal hFound
        obtain rfl : c :: behind = old := List.append_cancel_right hSame
        rw [segmentsFrom_of_some (hAlways _), ← hBefore hLocal]

/-- The segments on the two sides of a cut. -/
theorem segments_append (hm : Swaps m P) {a b : List Segment} (h : segments m (u ++ v) = a ++ b)
    (hOld : a.flatMap Segment.old = u) : b = segments m v ∧ (Local m → a = segments m u) :=
  segmentsFrom_append hm u h hOld (Nat.zero_le _)

/-- Where no match begins, nothing is replaced. -/
theorem new_eq_old {segs : List Segment} (h : ∀ old new, .swapped old new ∉ segs) :
    segs.flatMap Segment.new = segs.flatMap Segment.old := by
  induction segs with
  | nil => rfl
  | cons seg segs ih =>
    rw [List.flatMap_cons, List.flatMap_cons,
      ih fun old new hMem => h old new (List.mem_cons_of_mem _ hMem)]
    cases seg with
    | kept c => rfl
    | swapped old new => exact absurd (List.mem_cons_self ..) (h old new)

-- ---------------------------------------------------------------------------
-- Where nothing matches
-- ---------------------------------------------------------------------------

theorem count_eq_zero_iff : (replaceEach m t).2 = 0 ↔ ∀ s, s <:+ t → s ≠ [] → m s = none := by
  rw [replaceEach]
  induction t with
  | nil =>
    refine iff_of_true rfl fun s hs hne => absurd (List.suffix_nil.mp hs) hne
  | cons c t ih =>
    rw [replaceEachFrom]
    cases hHere : m (c :: t) with
    | none =>
      dsimp only
      rw [ih]
      refine ⟨fun h s hs hne => ?_, fun h s hs => h s (hs.trans (List.suffix_cons c t))⟩
      rcases List.suffix_cons_iff.mp hs with rfl | hLater
      · exact hHere
      · exact h s hLater hne
    | some found =>
      refine iff_of_false (Nat.succ_ne_zero _) fun h => ?_
      rw [h (c :: t) (List.suffix_refl _) (List.cons_ne_nil c t)] at hHere
      simp at hHere

theorem replaceEach_eq_self (hm : Swaps m P) (h : (replaceEach m t).2 = 0) :
    (replaceEach m t).1 = t := by
  have hNumber : (segments m t).countP Segment.isSwapped = 0 :=
    (congrArg Prod.snd (segmentsFrom_new m t 0)).trans h
  rw [← segments_new, new_eq_old, segments_old hm]
  intro old new hMem
  exact List.countP_eq_zero.mp hNumber _ hMem rfl

-- ---------------------------------------------------------------------------
-- Reading back
-- ---------------------------------------------------------------------------

/-- A text at the end of the replaced one begins within a segment. -/
theorem exists_of_suffix_new {segs : List Segment} {s : Text}
    (h : s <:+ segs.flatMap Segment.new) (hne : s ≠ []) :
    ∃ a seg b r, segs = a ++ seg :: b ∧ r <:+ seg.new ∧ r ≠ [] ∧
      s = r ++ b.flatMap Segment.new := by
  induction segs with
  | nil => exact absurd (List.suffix_nil.mp h) hne
  | cons seg segs ih =>
    have hLater (h : s <:+ segs.flatMap Segment.new) : ∃ a other b r,
        seg :: segs = a ++ other :: b ∧ r <:+ other.new ∧ r ≠ [] ∧
          s = r ++ b.flatMap Segment.new := by
      obtain ⟨a, other, b, r, rfl, hr⟩ := ih h
      exact ⟨seg :: a, other, b, r, rfl, hr⟩
    rw [List.flatMap_cons] at h
    rcases suffix_append_iff.mp h with hBehind | ⟨r, hr, rfl⟩
    · exact hLater hBehind
    · cases r with
      | nil => exact hLater (List.suffix_refl _)
      | cons d r => exact ⟨[], seg, segs, d :: r, rfl, hr, List.cons_ne_nil d r, rfl⟩

theorem kept_old (w : Text) : (w.map Segment.kept).flatMap Segment.old = w := by
  rw [List.flatMap_map]
  exact List.flatMap_singleton' w

/-- What the replaced text begins with was there before, as far as it does not have the
character that every replacement begins with. -/
theorem exists_kept_of_new {segs : List Segment} {d : Char} {w x : Text} (hd : d ∉ w)
    (hNew : ∀ old new, .swapped old new ∈ segs → ∃ n, new = d :: n)
    (h : segs.flatMap Segment.new = w ++ x) :
    ∃ b, segs = w.map Segment.kept ++ b ∧ b.flatMap Segment.new = x := by
  induction w generalizing segs with
  | nil => exact ⟨segs, rfl, h⟩
  | cons e w ih =>
    rw [List.mem_cons, not_or] at hd
    cases segs with
    | nil => exact absurd h.symm (List.cons_ne_nil _ _)
    | cons seg segs =>
      rw [List.flatMap_cons, List.cons_append] at h
      cases seg with
      | kept c =>
        obtain ⟨rfl, hRest⟩ := List.cons.inj h
        obtain ⟨b, rfl, hb⟩ := ih hd.2 (fun old new hMem => hNew old new (.tail _ hMem)) hRest
        exact ⟨b, rfl, hb⟩
      | swapped old new =>
        obtain ⟨n, rfl⟩ := hNew old new (.head _)
        exact absurd (List.cons.inj h).1 hd.1

/-- No match begins with a character that is kept. -/
theorem eq_none_of_kept (hm : Swaps m P) {a b : List Segment}
    (h : segments m t = a ++ .kept c :: b) : m (c :: b.flatMap Segment.old) = none := by
  have hText : t = a.flatMap Segment.old ++ c :: b.flatMap Segment.old := by
    rw [← segments_old hm t, h, List.flatMap_append, List.flatMap_cons]
    rfl
  rw [hText] at h
  have hBehind := (segments_append hm h rfl).1
  rw [segments, segmentsFrom] at hBehind
  split at hBehind
  · simp at hBehind
  · assumption

end Text

end SketchRepair
