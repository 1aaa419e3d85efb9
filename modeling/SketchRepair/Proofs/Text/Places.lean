import SketchRepair.Proofs.Text.FirstOccurrence
import SketchRepair.Proofs.Text.Scan

/-!
# SketchRepair — places of a text that are given new texts

Places are offsets of a text as it was. A new text can be put where its place has come to
be, after the places in front of it have been given theirs; or the old text can be searched
for, and give way where it stands first. The two differ when the old text also stands
further in front.

* `Separate` — places that do not overlap, in order;
* `inPlace`, `inTurn` — new texts in their places, and where the old ones stand first;
* `inPlace_behind`, `inPlace_concat` — one more place;
* `inTurn_concat_of_first`, `inTurn_concat_of_not_first` — where one more old text is found;
* `Separate.inTurn_eq_inPlace` — all of them.
-/

namespace SketchRepair

namespace Text

variable {t new : Text} {start mid stop : Nat} {place : Nat × Nat} {places : List (Nat × Nat)}
  {u : (Nat × Nat) × Text} {updates done later : List ((Nat × Nat) × Text)}

-- ---------------------------------------------------------------------------
-- Stretches of a text
-- ---------------------------------------------------------------------------

/-- A stretch is what stands before an offset in it, and what stands behind. -/
theorem between_split (hStart : start ≤ mid) (hStop : mid ≤ stop) (hWithin : stop ≤ t.length) :
    between (start, stop) t = between (start, mid) t ++ between (mid, stop) t := by
  have hMid : (t.take mid).length = mid := List.length_take_of_le (hStop.trans hWithin)
  have hTake : t.take stop = t.take mid ++ (t.take stop).drop mid := by
    conv_lhs => rw [← List.take_append_drop mid (t.take stop), List.take_take,
      Nat.min_eq_left hStop]
  conv_lhs => rw [between, hTake, List.drop_append_of_le_length (by rw [hMid]; exact hStart)]
  rfl

-- ---------------------------------------------------------------------------
-- New texts in their places
-- ---------------------------------------------------------------------------

/-- The text between two offsets, where the given places have new texts and everything else
is kept. -/
def exchanged (t : Text) : (start stop : Nat) → List ((Nat × Nat) × Text) → Text
  | start, stop, [] => between (start, stop) t
  | start, stop, u :: updates =>
    between (start, u.1.1) t ++ u.2 ++ exchanged t u.1.2 stop updates

/-- A text with new texts in some of its places. -/
def inPlace (updates : List ((Nat × Nat) × Text)) (t : Text) : Text :=
  exchanged t 0 t.length updates

/-- Where a place has come to be, when places in front of it have new texts. -/
def placeIn (updates : List ((Nat × Nat) × Text)) (t : Text) (place : Nat × Nat) : Nat :=
  (exchanged t 0 place.1 updates).length

/-- When places in front of it have new texts, the text of a place stands nowhere before
the place itself. -/
def StandsFirst (updates : List ((Nat × Nat) × Text)) (t : Text) (place : Nat × Nat) : Prop :=
  ∀ a b, inPlace updates t = a ++ between place t ++ b → placeIn updates t place ≤ a.length

/-- The texts of places replaced one after the other, each where it stands first. -/
def inTurn (source t : Text) (updates : List ((Nat × Nat) × Text)) : Text :=
  updates.foldl (fun t u => replaceFirst (between u.1 source) u.2 t) t

theorem inPlace_nil (t : Text) : inPlace [] t = t := by
  rw [inPlace, exchanged, between, List.take_length, List.drop_zero]

theorem inTurn_concat (source : Text) (updates : List ((Nat × Nat) × Text)) :
    inTurn source t (updates ++ [(place, new)]) =
      replaceFirst (between place source) new (inTurn source t updates) := by
  rw [inTurn, List.foldl_append]
  rfl

/-- Behind all of its places a text is kept. -/
theorem exchanged_split (hBefore : ∀ u ∈ updates, u.1.2 ≤ mid) (hStop : mid ≤ stop)
    (hWithin : stop ≤ t.length) : ∀ {start}, start ≤ mid →
      exchanged t start stop updates = exchanged t start mid updates ++ between (mid, stop) t := by
  induction updates with
  | nil =>
    intro start hStart
    exact between_split hStart hStop hWithin
  | cons u updates ih =>
    intro start _
    obtain ⟨hHere, hLater⟩ := List.forall_mem_cons.mp hBefore
    rw [exchanged, exchanged, ih hLater hHere, List.append_assoc _ (exchanged ..)]

/-- A last place is given its text, and what is behind it is kept. -/
theorem exchanged_concat (updates : List ((Nat × Nat) × Text)) : ∀ start,
    exchanged t start stop (updates ++ [(place, new)]) =
      exchanged t start place.1 updates ++ new ++ between (place.2, stop) t := by
  induction updates with
  | nil =>
    intro start
    rfl
  | cons u updates ih =>
    intro start
    rw [List.cons_append, exchanged, exchanged, ih]
    simp only [List.append_assoc]

/-- Places of a text that do not overlap, in order. -/
structure Separate (t : Text) (places : List (Nat × Nat)) : Prop where
  ordered : places.Pairwise fun p q => p.2 ≤ q.1
  proper : ∀ p ∈ places, p.1 ≤ p.2
  within : ∀ p ∈ places, p.2 ≤ t.length

theorem Separate.nil (t : Text) : Separate t [] :=
  ⟨List.Pairwise.nil, List.forall_mem_nil _, List.forall_mem_nil _⟩

/-- One more place before all others. -/
theorem Separate.cons (h : Separate t places) (hProper : place.1 ≤ place.2)
    (hBefore : ∀ p ∈ places, place.2 ≤ p.1) (hWithin : place.2 ≤ t.length) :
    Separate t (place :: places) :=
  ⟨List.pairwise_cons.mpr ⟨hBefore, h.ordered⟩, List.forall_mem_cons.mpr ⟨hProper, h.proper⟩,
    List.forall_mem_cons.mpr ⟨hWithin, h.within⟩⟩

theorem Separate.sublist {kept : List (Nat × Nat)} (h : Separate t places)
    (hKept : kept.Sublist places) : Separate t kept :=
  ⟨h.ordered.sublist hKept, fun p hp => h.proper p (hKept.subset hp),
    fun p hp => h.within p (hKept.subset hp)⟩

/-- Places up to one of them. -/
theorem Separate.upTo (h : Separate t ((done ++ u :: later).map Prod.fst)) :
    Separate t (done.map Prod.fst ++ [u.1]) := by
  refine h.sublist ?_
  rw [List.map_append, List.map_cons]
  exact (List.Sublist.refl _).append (List.singleton_sublist.mpr (List.mem_cons_self ..))

/-- What a search lists does not overlap. -/
theorem separate_spans {m : Option Char → Text → Option Nat} (hm : Solid m) (t : Text) :
    Separate t (spans m t) := by
  have hScan := spans_scan hm t
  refine ⟨hScan.ordered, fun p hp => ?_, fun p hp => ?_⟩
  all_goals obtain ⟨-, x, y, z, hText, hStart, hStop, -⟩ := hScan.sound p hp
  · exact hStop ▸ Nat.le_add_right ..
  · have hLength := congrArg List.length hText
    simp only [List.nil_append, List.length_append] at hLength
    omega

/-- Before a place that is not reached yet, and behind it. -/
theorem inPlace_behind (h : Separate t (done.map Prod.fst ++ [place])) :
    inPlace done t =
      exchanged t 0 place.1 done ++ between place t ++ between (place.2, t.length) t := by
  have hLast : place ∈ done.map Prod.fst ++ [place] := by simp
  have hBefore : ∀ u ∈ done, u.1.2 ≤ place.1 := by
    intro u hu
    exact (List.pairwise_append.mp h.ordered).2.2 u.1 (List.mem_map_of_mem hu) place (by simp)
  have hProper := h.proper place hLast
  have hWithin := h.within place hLast
  rw [inPlace, exchanged_split hBefore (hProper.trans hWithin) le_rfl (Nat.zero_le _),
    between_split hProper hWithin le_rfl, List.append_assoc]

theorem inPlace_concat (done : List ((Nat × Nat) × Text)) (place : Nat × Nat) (new t : Text) :
    inPlace (done ++ [(place, new)]) t =
      exchanged t 0 place.1 done ++ new ++ between (place.2, t.length) t :=
  exchanged_concat done 0

-- ---------------------------------------------------------------------------
-- Where old texts are found
-- ---------------------------------------------------------------------------

/-- A text that stands nowhere before its place gives way in its place. -/
theorem inTurn_concat_of_first (h : Separate t (done.map Prod.fst ++ [place]))
    (hDone : inTurn t t done = inPlace done t) (hFirst : StandsFirst done t place) (new : Text) :
    inTurn t t (done ++ [(place, new)]) = inPlace (done ++ [(place, new)]) t := by
  have hPage := inPlace_behind h
  rw [StandsFirst, hPage] at hFirst
  rw [inTurn_concat, hDone, hPage, inPlace_concat]
  exact replaceFirst_of_first hFirst

/-- A text that stands somewhere before its place gives way there. -/
theorem inTurn_concat_of_not_first (h : Separate t (done.map Prod.fst ++ [place]))
    (hDone : inTurn t t done = inPlace done t) (hFirst : ¬ StandsFirst done t place)
    (new : Text) : ∃ a b, inPlace done t = a ++ between place t ++ b ∧
      a.length < placeIn done t place ∧ inTurn t t (done ++ [(place, new)]) = a ++ new ++ b := by
  have hHas : has (between place t) (inPlace done t) = true :=
    has_iff.mpr ⟨_, _, (inPlace_behind h).symm⟩
  obtain ⟨a, b, hHere, hNowhere, hReplaced⟩ := exists_replaceFirst hHas
  refine ⟨a, b, hHere, ?_, by rw [inTurn_concat, hDone, hReplaced]⟩
  simp only [StandsFirst, not_forall, Nat.not_le] at hFirst
  obtain ⟨x, y, hText, hBefore⟩ := hFirst
  exact (hNowhere x y hText).trans_lt hBefore

/-- All texts give way in their places if each stands nowhere before its place when its turn
comes. -/
theorem Separate.inTurn_eq_inPlace (h : Separate t (updates.map Prod.fst))
    (hFirst : ∀ done u later, updates = done ++ u :: later → StandsFirst done t u.1) :
    inTurn t t updates = inPlace updates t := by
  suffices hBegin : ∀ done later, updates = done ++ later → inTurn t t done = inPlace done t from
    hBegin updates [] (List.append_nil _).symm
  intro done
  induction done using List.reverseRecOn with
  | nil =>
    intro later _
    exact (inPlace_nil t).symm
  | append_singleton done u ih =>
    intro later hSplit
    rw [List.append_assoc, List.singleton_append] at hSplit
    exact inTurn_concat_of_first (hSplit ▸ h).upTo (ih _ hSplit) (hFirst done u later hSplit) u.2

end Text

end SketchRepair
