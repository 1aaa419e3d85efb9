import SketchRepair.Proofs.Page.Fault
import SketchRepair.Proofs.Text.Lines
import SketchRepair.Proofs.Text.Scan

/-!
# SketchRepair — what is said to be no function

A call of something that is no function is reported by one message. The message may stand
again on the first line of the stack, and the event may arrive any number of times. Three
searches go through all that text: for the first reference, for one behind the kind of the
error, and for every reference with a point in it. Each of them might begin the reference
at another place or cut it elsewhere, and then a function would be missing that nobody
called. They all come to the same object and the same function.

* `IsReference` — names joined by points, and how they are cut;
* `plainReference?_report`, `typedReference?_report`, `spansFrom_report` — what the three
  searches find in a message, and where they go on;
* `Repeats.typedReference?`, `Repeats.spansFrom`, `missingFunctions_repeats` — and in a text
  that repeats it;
* `missingFunctionsOf_copies` — what is missing when the event arrives again and again.
-/

namespace SketchRepair

namespace Page

variable {r s t u v last : Text} {front : List Text} {f : Script.MissingFunction}

-- ---------------------------------------------------------------------------
-- References
-- ---------------------------------------------------------------------------

/-- A name of ASCII letters, digits, underscores and dollar signs. -/
structure IsAsciiName (name : Text) : Prop where
  nonempty : name ≠ []
  chars : ∀ c ∈ name, c.isAlphanum = true ∨ c = '_' ∨ c = '$'

instance (name : Text) : Decidable (IsAsciiName name) :=
  decidable_of_iff (name ≠ [] ∧ name.all fun c => c.isAlphanum = true ∨ c = '_' ∨ c = '$')
    ⟨fun h => ⟨h.1, fun c hc => of_decide_eq_true (List.all_eq_true.mp h.2 c hc)⟩,
      fun h => ⟨h.nonempty, List.all_eq_true.mpr fun c hc => decide_eq_true (h.chars c hc)⟩⟩

/-- The text of a reference, which is cut in two where there is a point in it. -/
structure IsReference (r : Text) : Prop where
  nonempty : r ≠ []
  chars : ∀ c ∈ r, isReferenceChar c = true
  split : '.' ∈ r → splitMember? r = some (splitReference r)

theorem IsReference.not_mem (h : IsReference r) {c : Char} (hc : isReferenceChar c = false) :
    c ∉ r := fun hMem => Bool.false_ne_true (hc.symm.trans (h.chars c hMem))

theorem cutAtLastPoint?_append (h : '.' ∉ v) : cutAtLastPoint? (u ++ '.' :: v) = some (u, v) := by
  have hCut : Text.upTo? '.' (u ++ '.' :: v).reverse = some (v.reverse, u.reverse) :=
    Text.upTo?_eq_some.mpr ⟨by simp, by simpa using h⟩
  rw [cutAtLastPoint?, hCut, Option.map_some]
  simp only [List.reverse_reverse]

theorem cutAtLastPoint?_of_not_mem (h : '.' ∉ r) : cutAtLastPoint? r = none := by
  rw [cutAtLastPoint?, Option.map_eq_none_iff]
  by_contra hSome
  obtain ⟨⟨x, y⟩, hCut⟩ := Option.ne_none_iff_exists'.mp hSome
  have hMem : '.' ∈ r.reverse := by rw [(Text.upTo?_eq_some.mp hCut).1]; simp
  exact h (List.mem_reverse.mp hMem)

theorem splitMember?_of_not_mem (h : '.' ∉ r) : splitMember? r = none := by
  rw [splitMember?, cutAtLastPoint?_of_not_mem h]

theorem isReferenceChar_of_ascii {c : Char} (h : c.isAlphanum = true ∨ c = '_' ∨ c = '$') :
    isReferenceChar c = true := by
  suffices hName : isNameChar c = true by rw [isReferenceChar, hName, Bool.true_or]
  rcases h with hAlphanum | rfl | rfl
  · have hFold : (fold c).isAlphanum = true := by
      unfold fold
      split
      · next hUpper =>
        have hAlpha : c.isAlpha = true := Bool.or_eq_true_iff.mpr (.inl hUpper)
        rw [Char.isAlphanum, Text.isAlpha_toLower hAlpha, Bool.true_or]
      · split
        · rfl
        · split
          · rfl
          · split
            · rfl
            · exact hAlphanum
    rw [isNameChar, hFold, Bool.true_or, Bool.true_or]
  · rfl
  · rfl

theorem IsAsciiName.not_mem {name : Text} (h : IsAsciiName name) : '.' ∉ name := by
  intro hMem
  exact absurd (h.chars '.' hMem) (by decide)

/-- Names joined by points are a reference: the last one is the function, and those before it
are the object. -/
theorem isReference_joinWith (h : ∀ w ∈ front ++ [last], IsAsciiName w) :
    IsReference (Text.joinWith ['.'] (front ++ [last])) ∧
      splitReference (Text.joinWith ['.'] (front ++ [last])) =
        ⟨if front = [] then Script.globalObject else Text.joinWith ['.'] front, last⟩ := by
  have hLast := h last (by simp)
  have hChars : ∀ c ∈ Text.joinWith ['.'] (front ++ [last]), isReferenceChar c = true := by
    intro c hc
    rcases Text.mem_joinWith hc with hPoint | ⟨w, hw, hMem⟩
    · rw [List.mem_singleton.mp hPoint]
      rfl
    · exact isReferenceChar_of_ascii ((h w hw).chars c hMem)
  by_cases hFront : front = []
  · subst hFront
    have hNone : '.' ∉ Text.joinWith ['.'] [last] := hLast.not_mem
    refine ⟨⟨hLast.nonempty, hChars, fun hMem => absurd hMem hNone⟩, ?_⟩
    rw [List.nil_append, splitReference, cutAtLastPoint?_of_not_mem hNone, if_pos rfl]
    rfl
  · have hText : Text.joinWith ['.'] (front ++ [last]) =
        Text.joinWith ['.'] front ++ '.' :: last := by
      rw [Text.joinWith_concat hFront, List.append_assoc, List.singleton_append]
    have hCut : cutAtLastPoint? (Text.joinWith ['.'] (front ++ [last])) =
        some (Text.joinWith ['.'] front, last) := by
      rw [hText, cutAtLastPoint?_append hLast.not_mem]
    have hObject : Text.joinWith ['.'] front ≠ [] := by
      obtain ⟨w, ws, rfl⟩ := List.exists_cons_of_ne_nil hFront
      have hw := (h w (by simp)).nonempty
      cases ws with
      | nil => exact hw
      | cons x ws =>
        rw [Text.joinWith_cons_cons]
        simp
    have hSplit : splitReference (Text.joinWith ['.'] (front ++ [last])) =
        ⟨Text.joinWith ['.'] front, last⟩ := by
      rw [splitReference, hCut]
    refine ⟨⟨by rw [hText]; simp, hChars, fun _ => ?_⟩, by rw [hSplit, if_neg hFront]⟩
    rw [splitMember?, hCut, hSplit]
    exact if_neg (by simp [hObject, hLast.nonempty])

-- ---------------------------------------------------------------------------
-- One message
-- ---------------------------------------------------------------------------

/-- The member function that is named here, directly behind the kind of error. -/
def typedHere (t : Text) : Option Script.MissingFunction :=
  match Text.afterFold? "typeerror: ".toList t with
  | none => none
  | some r =>
    match subjectHere isReferenceChar notAFunctionPhrase r with
    | none => none
    | some (reference, _) => splitMember? reference

theorem typedReference?_eq (message : Text) :
    typedReference? message = Text.find? typedHere message := rfl

/-- How far a member function that is named here reaches. -/
def memberLength? (_ : Option Char) (t : Text) : Option Nat := (memberHere t).map (·.2)

/-- A message that a reference is no function. -/
def report (lead r : Text) : Text := lead ++ ("TypeError: ".toList ++ (r ++ notAFunctionPhrase))

/-- What may stand in front of the kind of error. -/
def IsLead (lead : Text) : Prop := lead = [] ∨ lead = "Uncaught ".toList

theorem takeWhile_reference (hr : IsReference r) (hs : s <:+ r) (v : Text) :
    (s ++ (notAFunctionPhrase ++ v)).takeWhile isReferenceChar = s := by
  have hChars : ∀ c ∈ s, isReferenceChar c = true := fun c hc => hr.chars c (hs.subset hc)
  show (s ++ ' ' :: _).takeWhile isReferenceChar = s
  rw [Text.takeWhile_stop (by decide), List.takeWhile_eq_self_iff]
  exact hChars

theorem afterFold?_self {p : Text} (hp : p.map fold = p) (v : Text) :
    Text.afterFold? p (p ++ v) = some v :=
  Text.afterFold?_eq_some_iff.mpr ⟨p, rfl, hp⟩

theorem subjectHere_reference (hr : IsReference r) (v : Text) :
    subjectHere isReferenceChar notAFunctionPhrase (r ++ (notAFunctionPhrase ++ v)) =
      some (r, v) := by
  unfold subjectHere
  simp only [takeWhile_reference hr (List.suffix_refl r) v, List.drop_left]
  rw [afterFold?_self (by decide), if_neg (by simp [hr.nonempty]), Option.map_some]

theorem memberHere_of_not_mem (h : '.' ∉ t.takeWhile isReferenceChar) : memberHere t = none := by
  simp only [memberHere, splitMember?_of_not_mem h]

theorem memberHere_reference (hr : IsReference r) (hPoint : '.' ∈ r) (v : Text) :
    memberHere (r ++ (notAFunctionPhrase ++ v)) =
      some (splitReference r, (r ++ notAFunctionPhrase).length) := by
  have hCall : Text.after? "()".toList (notAFunctionPhrase ++ v) = none := rfl
  have hNot : Text.afterFold? " is not ".toList (notAFunctionPhrase ++ v) =
      some ("a function".toList ++ v) := rfl
  have hArticle : Text.afterFold? "a ".toList ("a function".toList ++ v) =
      some ("function".toList ++ v) := rfl
  have hFunction : Text.afterFold? "function".toList ("function".toList ++ v) = some v := rfl
  simp only [memberHere, takeWhile_reference hr (List.suffix_refl r) v, hr.split hPoint,
    List.drop_left, hCall, Option.getD_none, hNot, hArticle, Option.getD_some, hFunction,
    Option.map_some, List.length_append, Option.some.injEq, Prod.mk.injEq, true_and]
  omega

-- ---------------------------------------------------------------------------
-- Places where nothing is found
-- ---------------------------------------------------------------------------

/-- Nothing is found in front of the reference. -/
theorem announcement_none (v : Text) : ∀ s, s <:+ "Uncaught TypeError: ".toList → s ≠ [] →
    subjectHere isReferenceChar notAFunctionPhrase (s ++ v) = none ∧
      memberHere (s ++ v) = none := by
  simp only [String.reduceToList, Text.forall_suffix_cons_iff, Text.forall_suffix_nil_iff, and_true]
  repeat' apply And.intro
  all_goals rfl

/-- The kind of an error is named in one place of a message only. -/
theorem typedHere_none (v : Text) :
    ∀ u ∈ ["Uncaught ".toList, "ypeError: ".toList, " is not a function".toList],
      ∀ s, s <:+ u → s ≠ [] → typedHere (s ++ v) = none := by
  simp only [List.forall_mem_cons, String.reduceToList, Text.forall_suffix_cons_iff,
    Text.forall_suffix_nil_iff, and_true]
  repeat' apply And.intro
  all_goals first | rfl | exact List.forall_mem_nil _

/-- No reference holds the kind of an error, which ends with a colon. -/
theorem typedHere_reference (hr : IsReference r) (v : Text) (hs : s <:+ r) :
    typedHere (s ++ (notAFunctionPhrase ++ v)) = none := by
  have hColon : ':' ∉ s := fun hMem => hr.not_mem (by decide) (hs.subset hMem)
  have hNone : Text.afterFold? "typeerror: ".toList (s ++ (notAFunctionPhrase ++ v)) = none := by
    by_contra hSome
    obtain ⟨rest, hAfter⟩ := Option.ne_none_iff_exists'.mp hSome
    obtain ⟨h, hText, hFold⟩ := Text.afterFold?_eq_some_iff.mp hAfter
    obtain ⟨a, b, rfl, ha, hb⟩ : ∃ a b, h = a ++ b ∧ a.map fold = "typeerror".toList ∧
        b.map fold = [':', ' '] := List.map_eq_append_iff.mp hFold
    obtain ⟨c, b, rfl, hc, -⟩ := List.map_eq_cons_iff.mp hb
    rw [Text.eq_of_fold_eq (by decide) hc] at hText
    have hBlank : ' ' ∉ a := fun hMem => absurd (ha ▸ List.mem_map_of_mem hMem) (by decide)
    -- the colon would stand in the reference, or the blank behind it before the colon
    have hSplit : s ++ ' ' :: ("is not a function".toList ++ v) = a ++ ':' :: (b ++ rest) := by
      rw [List.append_assoc, List.cons_append] at hText
      exact hText
    rcases List.append_eq_append_iff.mp hSplit with ⟨w, rfl, hw⟩ | ⟨w, rfl, hw⟩
    · cases w with
      | nil => simp at hw
      | cons d w => exact hBlank (by rw [(List.cons.inj hw).1]; simp)
    · cases w with
      | nil => simp at hw
      | cons d w => exact hColon (by rw [(List.cons.inj hw).1]; simp)
  rw [typedHere, hNone]

/-- Behind a reference nothing is cut in two. -/
theorem memberHere_phrase (hEnds : v = [] ∨ ∃ u, v = '\n' :: u) (hs : s <:+ notAFunctionPhrase) :
    memberHere (s ++ v) = none := by
  refine memberHere_of_not_mem fun hMem => ?_
  have hRun : (s ++ v).takeWhile isReferenceChar = s.takeWhile isReferenceChar := by
    rcases hEnds with rfl | ⟨u, rfl⟩
    · rw [List.append_nil]
    · exact Text.takeWhile_stop (by decide) s u
  rw [hRun] at hMem
  exact absurd (hs.subset ((List.takeWhile_prefix _).subset hMem)) (by decide)

theorem memberHere_of_no_point (hr : IsReference r) (hPoint : '.' ∉ r) (v : Text) (hs : s <:+ r) :
    memberHere (s ++ (notAFunctionPhrase ++ v)) = none := by
  refine memberHere_of_not_mem ?_
  rw [takeWhile_reference hr hs]
  exact fun hMem => hPoint (hs.subset hMem)

-- ---------------------------------------------------------------------------
-- The three searches
-- ---------------------------------------------------------------------------

theorem report_append (lead r v : Text) :
    report lead r ++ v = lead ++ ("TypeError: ".toList ++ (r ++ (notAFunctionPhrase ++ v))) := by
  simp only [report, List.append_assoc]

theorem IsLead.suffix {lead : Text} (h : IsLead lead) :
    lead ++ "TypeError: ".toList <:+ "Uncaught TypeError: ".toList := by
  rcases h with rfl | rfl
  · exact ⟨"Uncaught ".toList, rfl⟩
  · exact List.suffix_refl _

theorem plainReference?_report {lead : Text} (hr : IsReference r) (hLead : IsLead lead)
    (v : Text) : plainReference? (report lead r ++ v) = some (splitReference r) := by
  have hFind : Text.find? (subjectHere isReferenceChar notAFunctionPhrase) (report lead r ++ v) =
      some (r, v) := by
    rw [report_append, ← List.append_assoc lead, Text.find?_append_of_none _ fun s hs hne =>
      (announcement_none _ s (hs.trans hLead.suffix) hne).1]
    exact Text.find?_of_some (subjectHere_reference hr v)
  rw [plainReference?, hFind, Option.map_some]

theorem typedHere_report (hr : IsReference r) (v : Text) :
    typedHere ("TypeError: ".toList ++ (r ++ (notAFunctionPhrase ++ v))) = splitMember? r := by
  have hKind : Text.afterFold? "typeerror: ".toList
      ("TypeError: ".toList ++ (r ++ (notAFunctionPhrase ++ v))) =
        some (r ++ (notAFunctionPhrase ++ v)) :=
    Text.afterFold?_eq_some_iff.mpr ⟨_, rfl, by decide⟩
  rw [typedHere, hKind]
  dsimp only
  rw [subjectHere_reference hr]

theorem typedReference?_report {lead : Text} (hr : IsReference r) (hLead : IsLead lead)
    (v : Text) : typedReference? (report lead r ++ v) =
      if '.' ∈ r then some (splitReference r) else typedReference? v := by
  have hFront : ∀ s, s <:+ lead → s ≠ [] →
      typedHere (s ++ ("TypeError: ".toList ++ (r ++ (notAFunctionPhrase ++ v)))) = none := by
    intro s hs hne
    rcases hLead with rfl | rfl
    · exact absurd (List.suffix_nil.mp hs) hne
    · exact typedHere_none _ _ (.head _) s hs hne
  rw [typedReference?_eq, report_append, Text.find?_append_of_none _ hFront]
  split
  · next hPoint => exact Text.find?_of_some ((typedHere_report hr v).trans (hr.split hPoint))
  · next hPoint =>
    have hKind : ∀ s, s <:+ "TypeError: ".toList → s ≠ [] →
        typedHere (s ++ (r ++ (notAFunctionPhrase ++ v))) = none := by
      refine Text.forall_suffix_cons_iff.mpr ⟨?_, typedHere_none _ _ (.tail _ (.head _))⟩
      exact (typedHere_report hr v).trans (splitMember?_of_not_mem hPoint)
    have hPhrase : ∀ s, s <:+ notAFunctionPhrase → s ≠ [] → typedHere (s ++ v) = none :=
      typedHere_none v _ (.tail _ (.tail _ (.head _)))
    rw [Text.find?_append_of_none _ hKind,
      Text.find?_append_of_none _ fun s hs _ => typedHere_reference hr v hs,
      Text.find?_append_of_none _ hPhrase, ← typedReference?_eq]

/-- The places that the third search lists: that of the reference, if there is a point in it,
and those behind the message. -/
theorem spansFrom_report {lead : Text} (hr : IsReference r) (hLead : IsLead lead)
    (hEnds : v = [] ∨ ∃ u, v = '\n' :: u) (i : Nat) (prev : Option Char) :
    ∃ prev', Text.spansFrom memberLength? 0 i prev (report lead r ++ v) =
      (if '.' ∈ r then
        [(i + (lead ++ "TypeError: ".toList).length, i + (report lead r).length)] else []) ++
      Text.spansFrom memberLength? 0 (i + (report lead r).length) prev' v := by
  have hFront : ∀ s, s <:+ lead ++ "TypeError: ".toList → s ≠ [] → ∀ prev,
      memberLength? prev (s ++ (r ++ (notAFunctionPhrase ++ v))) = none := by
    intro s hs hne prev
    rw [memberLength?, (announcement_none _ s (hs.trans hLead.suffix) hne).2, Option.map_none]
  have hLength : (report lead r).length =
      (lead ++ "TypeError: ".toList).length + (r ++ notAFunctionPhrase).length := by
    simp only [report, List.length_append]
    omega
  rw [report_append, ← List.append_assoc lead, Text.spansFrom_append_of_none _ hFront, hLength,
    ← Nat.add_assoc]
  generalize i + (lead ++ "TypeError: ".toList).length = j
  generalize (prev.toList ++ (lead ++ "TypeError: ".toList)).getLast? = prev
  split
  · next hPoint =>
    -- the whole of the reference is covered, and so is what is said of it
    have hHere : memberLength? prev (r ++ notAFunctionPhrase ++ v) =
        some (r ++ notAFunctionPhrase).length := by
      rw [memberLength?, List.append_assoc, memberHere_reference hr hPoint, Option.map_some]
    rw [← List.append_assoc, Text.spansFrom_of_match hHere (by simp [hr.nonempty])]
    exact ⟨_, rfl⟩
  · next hPoint =>
    have hReference : ∀ s, s <:+ r → s ≠ [] → ∀ prev,
        memberLength? prev (s ++ (notAFunctionPhrase ++ v)) = none := by
      intro s hs _ prev
      rw [memberLength?, memberHere_of_no_point hr hPoint v hs, Option.map_none]
    have hPhrase : ∀ s, s <:+ notAFunctionPhrase → s ≠ [] → ∀ prev,
        memberLength? prev (s ++ v) = none := by
      intro s hs _ prev
      rw [memberLength?, memberHere_phrase hEnds hs, Option.map_none]
    rw [Text.spansFrom_append_of_none _ hReference, Text.spansFrom_append_of_none _ hPhrase,
      Nat.add_assoc, ← List.length_append]
    exact ⟨_, (List.nil_append _).symm⟩

-- ---------------------------------------------------------------------------
-- Texts that say it again
-- ---------------------------------------------------------------------------

/-- In no letter case does the text say that something is not anything. -/
def Quiet (t : Text) : Prop := ¬ "not".toList <:+: t.map fold

/-- A text in which a message is repeated, each time up to the end of a line, and which is
quiet behind that. -/
inductive Repeats (message : Text) : Text → Prop where
  | quiet {t : Text} (hQuiet : Quiet t) : Repeats message t
  | break {t : Text} (hRest : Repeats message t) : Repeats message ('\n' :: t)
  | copy {t : Text} (hEnds : t = [] ∨ ∃ u, t = '\n' :: u) (hRest : Repeats message t) :
      Repeats message (message ++ t)

theorem Quiet.of_suffix (h : Quiet t) (hs : s <:+ t) : Quiet s :=
  fun hNot => h (hNot.trans (hs.map fold).isInfix)

/-- Nothing is found in a quiet text that would have to be said there. -/
theorem Quiet.afterFold? {p : Text} (h : Quiet t) (hp : "not".toList <:+: p) :
    Text.afterFold? p t = none :=
  Text.afterFold?_eq_none_iff.mpr fun hHere => h (hp.trans hHere.isInfix)

theorem Quiet.subjectHere (h : Quiet t) :
    Page.subjectHere isReferenceChar notAFunctionPhrase t = none := by
  unfold Page.subjectHere
  dsimp only
  rw [(h.of_suffix (List.drop_suffix _ t)).afterFold? (by decide), Option.map_none, ite_self]

theorem Quiet.typedHere (h : Quiet t) : Page.typedHere t = none := by
  unfold Page.typedHere
  split
  · rfl
  · next r hKind =>
    obtain ⟨w, rfl, -⟩ := Text.afterFold?_eq_some_iff.mp hKind
    rw [(h.of_suffix (List.suffix_append w r)).subjectHere]

theorem Quiet.memberHere (h : Quiet t) : Page.memberHere t = none := by
  have hBehind (u : Text) : (Text.after? "()".toList u).getD u <:+ u := by
    cases hCall : Text.after? "()".toList u with
    | none => exact List.suffix_refl u
    | some r => exact ⟨_, (Text.after?_eq_some.mp hCall).symm⟩
  have hQuiet := h.of_suffix ((hBehind _).trans
    (List.drop_suffix (t.takeWhile isReferenceChar).length t))
  unfold Page.memberHere
  dsimp only
  rw [hQuiet.afterFold? (by decide)]
  split <;> rfl

theorem quiet_break_iff : Quiet (u ++ '\n' :: v) ↔ Quiet u ∧ Quiet v := by
  have hBreak : fold '\n' = '\n' := rfl
  rw [Quiet, List.map_append, List.map_cons, hBreak, Text.infix_append_cons_iff (by decide), not_or]
  rfl

/-- Lines that are quiet are so together. -/
theorem quiet_unlines {ls : List Text} (h : ∀ l ∈ ls, Quiet l) : Quiet (Text.unlines ls) := by
  induction ls with
  | nil =>
    unfold Quiet
    decide
  | cons l ls ih =>
    obtain ⟨hl, hRest⟩ := List.forall_mem_cons.mp h
    cases ls with
    | nil => exact hl
    | cons k ls =>
      rw [Text.unlines_cons_cons]
      exact quiet_break_iff.mpr ⟨hl, ih hRest⟩

/-- What the second search finds in a text that repeats a message. -/
theorem Repeats.typedReference? {lead : Text} (hr : IsReference r) (hLead : IsLead lead)
    (h : Repeats (report lead r) t) (hFound : Page.typedReference? t = some f) :
    f = splitReference r := by
  have hSkip (u v : Text) (hNone : ∀ s, s <:+ u → s ≠ [] → Page.typedHere (s ++ v) = none) :
      Page.typedReference? (u ++ v) = Page.typedReference? v := Text.find?_append_of_none v hNone
  induction h with
  | @quiet t hQuiet =>
    have hNone := hSkip t [] fun s hs _ => by
      rw [List.append_nil]
      exact (hQuiet.of_suffix hs).typedHere
    rw [List.append_nil] at hNone
    have hEnd : Page.typedReference? [] = none := rfl
    rw [hNone, hEnd] at hFound
    simp at hFound
  | @«break» t hRest ih =>
    refine ih ?_
    rw [← hFound]
    refine (hSkip ['\n'] t fun s hs hne => ?_).symm
    rcases List.suffix_cons_iff.mp hs with rfl | hs
    · rfl
    · exact absurd (List.suffix_nil.mp hs) hne
  | @copy t hEnds hRest ih =>
    rw [typedReference?_report hr hLead] at hFound
    split at hFound
    · exact (Option.some.inj hFound).symm
    · exact ih hFound

/-- Wherever the third search finds something in a text that repeats a message, it is the
reference that stands there. -/
theorem Repeats.spansFrom {lead : Text} (hr : IsReference r) (hLead : IsLead lead)
    (h : Repeats (report lead r) t) : ∀ (i : Nat) (prev : Option Char),
      ∀ span ∈ Text.spansFrom memberLength? 0 i prev t, ∃ x y, t = x ++ y ∧
        span.1 = i + x.length ∧ ∀ found, Page.memberHere y = some found →
          found.1 = splitReference r := by
  induction h with
  | @quiet t hQuiet =>
    intro i prev span hSpan
    have hHere (s : Text) (hs : s <:+ t) (_ : s ≠ []) (prev : Option Char) :
        memberLength? prev (s ++ []) = none := by
      rw [List.append_nil, memberLength?, (hQuiet.of_suffix hs).memberHere, Option.map_none]
    have hNone := Text.spansFrom_append_of_none [] hHere i prev
    rw [List.append_nil] at hNone
    rw [hNone] at hSpan
    exact absurd hSpan List.not_mem_nil
  | @«break» t hRest ih =>
    intro i prev span hSpan
    have hBreak : Text.spansFrom memberLength? 0 i prev ('\n' :: t) =
        Text.spansFrom memberLength? 0 (i + 1) (some '\n') t := rfl
    rw [hBreak] at hSpan
    obtain ⟨x, y, rfl, hAt, hFound⟩ := ih (i + 1) (some '\n') span hSpan
    exact ⟨'\n' :: x, y, rfl, by rw [hAt, List.length_cons]; omega, hFound⟩
  | @copy t hEnds hRest ih =>
    intro i prev span hSpan
    obtain ⟨prev', hSpans⟩ := spansFrom_report hr hLead hEnds i prev
    rw [hSpans, List.mem_append] at hSpan
    rcases hSpan with hHere | hBehind
    · split at hHere
      · next hPoint =>
        obtain rfl := List.mem_singleton.mp hHere
        refine ⟨lead ++ "TypeError: ".toList, r ++ (notAFunctionPhrase ++ t), ?_, rfl, ?_⟩
        · rw [report_append, List.append_assoc]
        · intro found hFound
          rw [memberHere_reference hr hPoint] at hFound
          rw [← Option.some.inj hFound]
      · exact absurd hHere List.not_mem_nil
    · obtain ⟨x, y, rfl, hAt, hFound⟩ := ih (i + (report lead r).length) prev' span hBehind
      refine ⟨report lead r ++ x, y, (List.append_assoc _ _ _).symm, ?_, hFound⟩
      rw [hAt, List.length_append, Nat.add_assoc]

theorem Repeats.memberReferences {lead : Text} (hr : IsReference r) (hLead : IsLead lead)
    (h : Repeats (report lead r) t) : ∀ g ∈ Page.memberReferences t, g = splitReference r := by
  intro g hg
  obtain ⟨⟨i, j⟩, hSpan, hMember⟩ := List.mem_filterMap.mp hg
  obtain ⟨x, y, rfl, hAt, hFound⟩ := h.spansFrom hr hLead 0 none (i, j) hSpan
  obtain rfl : i = x.length := by rw [← Nat.zero_add x.length]; exact hAt
  dsimp only at hMember
  rw [List.drop_left] at hMember
  obtain ⟨found, hHere, rfl⟩ := Option.map_eq_some_iff.mp hMember
  exact hFound found hHere

/-- A list of one thing and its copies is that thing, once. -/
theorem eraseDups_of_forall_eq {fs : List Script.MissingFunction} (hNonempty : fs ≠ [])
    (h : ∀ g ∈ fs, g = f) : fs.eraseDups = [f] := by
  obtain ⟨g, gs, rfl⟩ := List.exists_cons_of_ne_nil hNonempty
  obtain ⟨rfl, hRest⟩ := List.forall_mem_cons.mp h
  have hNoOther : gs.filter (fun b => !b == g) = [] :=
    List.filter_eq_nil_iff.mpr fun b hb => by simp [hRest b hb]
  rw [List.eraseDups_cons, hNoOther, List.eraseDups_nil]

/-- The three searches come to one function in a text that begins with a message and
repeats it. -/
theorem missingFunctions_repeats {lead : Text} (hr : IsReference r) (hLead : IsLead lead)
    (hEnds : t = [] ∨ ∃ u, t = '\n' :: u) (h : Repeats (report lead r) t) :
    missingFunctions (report lead r ++ t) = [splitReference r] := by
  have hAll : Repeats (report lead r) (report lead r ++ t) := .copy hEnds h
  refine eraseDups_of_forall_eq ?_ ?_
  · rw [plainReference?_report hr hLead]
    simp
  · intro g hg
    rw [List.mem_append, List.mem_append, Option.mem_toList, Option.mem_toList] at hg
    rcases hg with (hPlain | hTyped) | hMember
    · rw [plainReference?_report hr hLead] at hPlain
      exact (Option.some.inj hPlain).symm
    · exact hAll.typedReference? hr hLead hTyped
    · exact hAll.memberReferences hr hLead g hMember

-- ---------------------------------------------------------------------------
-- Events
-- ---------------------------------------------------------------------------

/-- A stack that says the message on its first line, and nothing of the kind below. -/
structure Echoes (message : Text) (below : List Text) (stack : Text) : Prop where
  lines : Text.lines stack = message :: below
  quiet : ∀ l ∈ below, Text.hasFold "not".toList l = false

instance (message : Text) (below : List Text) (stack : Text) :
    Decidable (Echoes message below stack) :=
  decidable_of_iff (Text.lines stack = message :: below ∧
      ∀ l ∈ below, Text.hasFold "not".toList l = false)
    ⟨fun h => ⟨h.1, h.2⟩, fun h => ⟨h.lines, h.quiet⟩⟩

theorem Echoes.exists_rest {message stack : Text} {below : List Text}
    (h : Echoes message below stack) : ∃ rest, stack = message ++ rest ∧
      (rest = [] ∨ ∃ u, rest = '\n' :: u) ∧ Repeats message rest := by
  have hQuiet : Quiet (Text.unlines below) := quiet_unlines fun l hl hNot =>
    Bool.false_ne_true ((h.quiet l hl).symm.trans (Text.hasFold_iff.mpr hNot))
  have hStack : stack = Text.unlines (message :: below) := by rw [← h.lines, Text.unlines_lines]
  cases below with
  | nil => exact ⟨[], by rw [hStack, List.append_nil]; rfl, .inl rfl, .quiet hQuiet⟩
  | cons l ls =>
    exact ⟨_, by rw [hStack, Text.unlines_cons_cons], .inr ⟨_, rfl⟩, .break (.quiet hQuiet)⟩

/-- The text of an event begins with its message, and at most repeats it. -/
theorem Event.exists_text {e : Event}
    (hStack : ∀ s, e.stack = some s → ∃ below, Echoes e.message below s) :
    ∃ t, e.text = e.message ++ t ∧ (t = [] ∨ ∃ u, t = '\n' :: u) ∧ Repeats e.message t := by
  have hNothing : Repeats e.message [] := .quiet (by unfold Quiet; decide)
  have hAlone : e.message = e.message ++ [] := (List.append_nil _).symm
  unfold Event.text
  split
  · next s hs =>
    split
    · exact ⟨[], hAlone, .inl rfl, hNothing⟩
    · obtain ⟨below, hEchoes⟩ := hStack s hs
      obtain ⟨rest, rfl, hEnds, hRest⟩ := hEchoes.exists_rest
      refine ⟨'\n' :: (e.message ++ rest), ?_, .inr ⟨_, rfl⟩, .break (.copy hEnds hRest)⟩
      rw [List.append_assoc, List.singleton_append]
  · exact ⟨[], hAlone, .inl rfl, hNothing⟩

theorem isTypeError_report {e : Event} {lead : Text} (hChannel : e.channel = .pageError)
    (hMessage : e.message = report lead r) : e.isTypeError = true := by
  rw [Event.isTypeError, hChannel, hMessage]
  exact Text.has_iff.mpr ⟨lead ++ ("TypeError: ".toList ++ (r ++ [' '])), [], by
    simp only [report, List.append_assoc, List.append_nil]
    rfl⟩

/-- However often an uncaught error says that a reference is no function, and with its stack
says it again, one function is missing: the last name of the reference, of the object that
the names before it denote, or of the global object if there are none. -/
theorem missingFunctionsOf_copies {lead : Text} (hLead : IsLead lead)
    (hNames : ∀ w ∈ front ++ [last], IsAsciiName w) {e : Event} (hChannel : e.channel = .pageError)
    (hMessage : e.message = report lead (Text.joinWith ['.'] (front ++ [last])))
    (hStack : ∀ s, e.stack = some s → ∃ below, Echoes e.message below s) (n : Nat) :
    missingFunctionsOf (List.replicate (n + 1) e) =
      [⟨if front = [] then Script.globalObject else Text.joinWith ['.'] front, last⟩] := by
  obtain ⟨hr, hSplit⟩ := isReference_joinWith hNames
  have hOne : missingFunctions e.text =
      [⟨if front = [] then Script.globalObject else Text.joinWith ['.'] front, last⟩] := by
    obtain ⟨t, hText, hEnds, hRepeats⟩ := e.exists_text hStack
    rw [hMessage] at hText hRepeats
    rw [hText, missingFunctions_repeats hr hLead hEnds hRepeats, hSplit]
  have hKept : (List.replicate (n + 1) e).filter (·.isTypeError) = List.replicate (n + 1) e := by
    rw [List.filter_replicate, if_pos (isTypeError_report hChannel hMessage)]
  unfold missingFunctionsOf
  rw [hKept]
  refine eraseDups_of_forall_eq ?_ ?_
  · rw [List.replicate_succ, List.flatMap_cons, hOne]
    simp
  · intro g hg
    obtain ⟨d, hd, hMem⟩ := List.mem_flatMap.mp hg
    rw [List.eq_of_mem_replicate hd, hOne] at hMem
    exact List.mem_singleton.mp hMem

theorem missingFunctionsOf_copies_lerp :
    missingFunctionsOf (List.replicate 3
      ⟨.pageError, "Uncaught TypeError: p5.Vector.lerp is not a function".toList,
        some ("Uncaught TypeError: p5.Vector.lerp is not a function\n".toList ++
          "    at draw (sketch.js:4:9)".toList), none⟩) =
      [⟨"p5.Vector".toList, "lerp".toList⟩] := by
  have hLead : IsLead "Uncaught ".toList := .inr rfl
  have hNames : ∀ w ∈ ["p5".toList, "Vector".toList] ++ ["lerp".toList], IsAsciiName w := by decide
  refine missingFunctionsOf_copies hLead hNames rfl rfl (fun s hs => ?_) 2
  obtain rfl := Option.some.inj hs
  exact ⟨["    at draw (sketch.js:4:9)".toList], by decide⟩

end Page

end SketchRepair
