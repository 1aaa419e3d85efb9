import SketchRepair.Proofs.Document.Markup
import SketchRepair.Proofs.Text.Blank

/-!
# SketchRepair — what encoded scripts and titles look like

Whether an encoded script or title begins at a place depends on what it begins with, and
on very little of what follows: a script needs an address with a quote behind it, a title
one character that may stand in a title. Nothing in either beginning is an angle bracket.

* `ScriptLead`, `TitleLead` — what they begin with;
* `encodedScript?_ne_none_iff`, `encodedTitle?_ne_none_iff` — where they are found.
-/

namespace SketchRepair

namespace Document

variable {t w x : Text}

/-- What an encoded script begins with, up to its address. Its name may be missing. -/
def ScriptLead (w : Text) : Prop :=
  ∃ bracket gap name space source, w = bracket ++ gap ++ name ++ space ++ source ∧
    bracket.map fold = "&lt;".toList ∧ (∀ c ∈ gap, isBlank c = true) ∧
    (name = [] ∨ name.map fold = "script".toList) ∧ (∀ c ∈ space, isBlank c = true) ∧
    source.map fold = "src=\"".toList

/-- What an encoded title begins with: a tag that has no name. -/
def TitleLead (w : Text) : Prop :=
  ∃ bracket gap last, w = bracket ++ gap ++ last ∧ bracket.map fold = "&lt;".toList ∧
    (∀ c ∈ gap, isBlank c = true) ∧ last.map fold = "&gt;".toList

-- ---------------------------------------------------------------------------
-- No angle brackets
-- ---------------------------------------------------------------------------

theorem lt_not_mem_of_fold {p : Text} (h : w.map fold = p) (hp : '<' ∉ p) : '<' ∉ w := by
  intro hMem
  exact hp (h ▸ List.mem_map.mpr ⟨'<', hMem, by decide⟩)

theorem lt_not_mem_of_blank (h : ∀ c ∈ w, isBlank c = true) : '<' ∉ w := by
  intro hMem
  exact absurd (h '<' hMem) (by decide)

theorem ScriptLead.lt_not_mem (h : ScriptLead w) : '<' ∉ w := by
  obtain ⟨bracket, gap, name, space, source, rfl, hBracket, hGap, hName, hSpace, hSource⟩ := h
  have hName : '<' ∉ name := by
    rcases hName with rfl | hName
    · exact List.not_mem_nil
    · exact lt_not_mem_of_fold hName (by decide)
  simp only [List.mem_append, not_or]
  exact ⟨⟨⟨⟨lt_not_mem_of_fold hBracket (by decide), lt_not_mem_of_blank hGap⟩, hName⟩,
    lt_not_mem_of_blank hSpace⟩, lt_not_mem_of_fold hSource (by decide)⟩

theorem TitleLead.lt_not_mem (h : TitleLead w) : '<' ∉ w := by
  obtain ⟨bracket, gap, last, rfl, hBracket, hGap, hLast⟩ := h
  simp only [List.mem_append, not_or]
  exact ⟨⟨lt_not_mem_of_fold hBracket (by decide), lt_not_mem_of_blank hGap⟩,
    lt_not_mem_of_fold hLast (by decide)⟩

-- ---------------------------------------------------------------------------
-- Scripts
-- ---------------------------------------------------------------------------

/-- The address of an encoded script, and all that follows. -/
def address? (t : Text) : Option Text :=
  (Text.afterFold? "&lt;".toList t).bind fun r =>
    Text.afterFold? "src=\"".toList ((skipFold "script".toList r).dropWhile isBlank)

/-- What names a source does not name a script. -/
theorem skipFold_of_source (h : Text.afterFold? "src=\"".toList (t.dropWhile isBlank) = some x) :
    skipFold "script".toList t = t := by
  have hNone : Text.afterFold? "script".toList (t.dropWhile isBlank) = none := by
    rw [Text.afterFold?_eq_none_iff]
    intro hScript
    have hSource := Text.exists_afterFold?_iff.mp ⟨x, h⟩
    exact absurd (List.prefix_of_prefix_length_le hSource hScript (by decide)) (by decide)
  rw [skipFold, hNone]
  rfl

theorem address?_eq_some_iff : address? t = some x ↔ ∃ w, t = w ++ x ∧ ScriptLead w := by
  have hSourceLead {u : Text} : Text.afterFold? "src=\"".toList (u.dropWhile isBlank) = some x ↔
      ∃ gap w, u = gap ++ w ++ x ∧ (∀ c ∈ gap, isBlank c = true) ∧ w.map fold = "src=\"".toList :=
    Text.afterFold?_behindBlanks_iff (by decide)
  rw [address?, Option.bind_eq_some_iff]
  constructor
  · rintro ⟨r, hBracket, hSource⟩
    obtain ⟨bracket, rfl, hLt⟩ := Text.afterFold?_eq_some_iff.mp hBracket
    obtain ⟨space, source, hText, hSpace, hEnd⟩ := hSourceLead.mp hSource
    cases hName : Text.afterFold? "script".toList (r.dropWhile isBlank) with
    | none =>
      rw [skipFold, hName, Option.getD_none] at hText
      refine ⟨bracket ++ [] ++ [] ++ space ++ source, by simp [hText], bracket, [], [], space,
        source, rfl, hLt, fun c hc => absurd hc List.not_mem_nil, .inl rfl, hSpace, hEnd⟩
    | some rest =>
      rw [skipFold, hName, Option.getD_some] at hText
      obtain ⟨gap, name, rfl, hGap, hName⟩ :=
        (Text.afterFold?_behindBlanks_iff (by decide)).mp hName
      refine ⟨bracket ++ gap ++ name ++ space ++ source, by simp [hText], bracket, gap, name, space,
        source, rfl, hLt, hGap, .inr hName, hSpace, hEnd⟩
  · rintro ⟨w, rfl, bracket, gap, name, space, source, rfl, hBracket, hGap, hName, hSpace, hSource⟩
    refine ⟨gap ++ name ++ space ++ source ++ x, ?_, ?_⟩
    · exact Text.afterFold?_eq_some_iff.mpr ⟨bracket, by simp, hBracket⟩
    · rcases hName with rfl | hName
      · have hBlank : ∀ c ∈ gap ++ space, isBlank c = true := by
          intro c hc
          exact (List.mem_append.mp hc).elim (hGap c) (hSpace c)
        have hHere := hSourceLead.mpr ⟨gap ++ space, source, rfl, hBlank, hSource⟩
        rw [List.append_nil, skipFold_of_source hHere, hHere]
      · have hSkip : skipFold "script".toList (gap ++ name ++ space ++ source ++ x) =
            space ++ source ++ x := by
          have hHere : Text.afterFold? "script".toList
              ((gap ++ name ++ space ++ source ++ x).dropWhile isBlank) =
                some (space ++ source ++ x) :=
            (Text.afterFold?_behindBlanks_iff (by decide)).mpr
              ⟨gap, name, by simp, hGap, hName⟩
          rw [skipFold, hHere, Option.getD_some]
        rw [hSkip]
        exact hSourceLead.mpr ⟨space, source, rfl, hSpace, hSource⟩

/-- An encoded script is found where the address is not empty and has a quote behind it. -/
theorem encodedScript?_ne_none_iff : encodedScript? t ≠ none ↔
    ∃ w x, t = w ++ x ∧ ScriptLead w ∧ x.head? ≠ some '"' ∧ '"' ∈ x := by
  have hAddress : encodedScript? t ≠ none ↔
      ∃ x, address? t = some x ∧ x.head? ≠ some '"' ∧ '"' ∈ x := by
    rw [encodedScript?, address?]
    cases Text.afterFold? "&lt;".toList t with
    | none => simp
    | some r =>
      dsimp only
      rw [Option.bind_some]
      cases Text.afterFold? "src=\"".toList ((skipFold "script".toList r).dropWhile isBlank) with
      | none => simp
      | some x =>
        dsimp only
        simp only [Option.some.injEq, exists_eq_left']
        cases hUrl : Text.upTo? '"' x with
        | none =>
          refine iff_of_false (by simp) fun hQuote => ?_
          obtain ⟨url, rest, hText, hFirst⟩ := List.eq_append_cons_of_mem hQuote.2
          rw [Text.upTo?_eq_some.mpr ⟨hText, hFirst⟩] at hUrl
          simp at hUrl
        | some found =>
          obtain ⟨url, rest⟩ := found
          obtain ⟨rfl, hFirst⟩ := Text.upTo?_eq_some.mp hUrl
          cases url with
          | nil => simp
          | cons c url =>
            have hc : c ≠ '"' := fun he => hFirst (he ▸ List.mem_cons_self ..)
            simp [hc]
  rw [hAddress]
  constructor
  · rintro ⟨x, hx, hHead, hQuote⟩
    obtain ⟨w, rfl, hLead⟩ := address?_eq_some_iff.mp hx
    exact ⟨w, x, rfl, hLead, hHead, hQuote⟩
  · rintro ⟨w, x, rfl, hLead, hHead, hQuote⟩
    exact ⟨x, address?_eq_some_iff.mpr ⟨w, rfl, hLead⟩, hHead, hQuote⟩

-- ---------------------------------------------------------------------------
-- Titles
-- ---------------------------------------------------------------------------

theorem isTitleChar_of_isBlank {c : Char} (h : isBlank c = true) : isTitleChar c = true := by
  rw [isTitleChar, decide_eq_true (Text.ne_of_class h (by decide)),
    decide_eq_true (Text.ne_of_class h (by decide))]
  rfl

/-- What follows a tag without a name. -/
def nameless? (t : Text) : Option Text :=
  (Text.afterFold? "&lt;".toList t).bind fun r =>
    Text.afterFold? "&gt;".toList (r.dropWhile isBlank)

theorem nameless?_eq_some_iff : nameless? t = some x ↔ ∃ w, t = w ++ x ∧ TitleLead w := by
  rw [nameless?, Option.bind_eq_some_iff]
  constructor
  · rintro ⟨r, hBracket, hEnd⟩
    obtain ⟨bracket, rfl, hLt⟩ := Text.afterFold?_eq_some_iff.mp hBracket
    obtain ⟨gap, last, rfl, hGap, hLast⟩ := (Text.afterFold?_behindBlanks_iff (by decide)).mp hEnd
    exact ⟨bracket ++ gap ++ last, by simp, bracket, gap, last, rfl, hLt, hGap, hLast⟩
  · rintro ⟨w, rfl, bracket, gap, last, rfl, hLt, hGap, hLast⟩
    exact ⟨gap ++ last ++ x, Text.afterFold?_eq_some_iff.mpr ⟨bracket, by simp, hLt⟩,
      (Text.afterFold?_behindBlanks_iff (by decide)).mpr ⟨gap, last, rfl, hGap, hLast⟩⟩

/-- The title is not empty if there is a character for it, be it a blank. -/
theorem title_isEmpty_iff (s : Text) :
    let gap := s.takeWhile isBlank
    let run := (s.drop gap.length).takeWhile isTitleChar
    (if run.isEmpty then gap.drop (gap.length - 1) else run).isEmpty = true ↔
      ∀ c ∈ s.head?, isTitleChar c = false := by
  intro gap run
  have hRun : run = (s.drop gap.length).takeWhile isTitleChar := rfl
  cases s with
  | nil => simp [gap, run]
  | cons c x =>
    have hHead : (∀ d ∈ (c :: x).head?, isTitleChar d = false) ↔ isTitleChar c = false := by simp
    rw [hHead]
    by_cases hBlank : isBlank c = true
    · have hGap : gap = c :: x.takeWhile isBlank := List.takeWhile_cons_of_pos hBlank
      rw [isTitleChar_of_isBlank hBlank, List.isEmpty_iff]
      refine iff_of_false ?_ (by decide)
      split
      · rw [List.drop_eq_nil_iff, hGap, List.length_cons]
        omega
      · next hSolid => rwa [List.isEmpty_iff] at hSolid
    · have hGap : gap = [] := List.takeWhile_cons_of_neg hBlank
      rw [hGap, List.length_nil, List.drop_zero] at hRun
      rw [hGap]
      cases hc : isTitleChar c with
      | true =>
        rw [hRun, List.takeWhile_cons_of_pos hc]
        simp
      | false =>
        rw [hRun, List.takeWhile_cons_of_neg (by rw [hc]; decide)]
        simp

/-- An encoded title is found where there is a character for the title. -/
theorem encodedTitle?_ne_none_iff : encodedTitle? t ≠ none ↔
    ∃ w c x, t = w ++ c :: x ∧ TitleLead w ∧ isTitleChar c = true := by
  have hTitle : encodedTitle? t ≠ none ↔
      ∃ s, nameless? t = some s ∧ ∃ c ∈ s.head?, isTitleChar c = true := by
    rw [encodedTitle?, nameless?]
    cases Text.afterFold? "&lt;".toList t with
    | none => simp
    | some r =>
      dsimp only
      rw [Option.bind_some]
      cases Text.afterFold? "&gt;".toList (r.dropWhile isBlank) with
      | none => simp
      | some s =>
        have hEmpty := title_isEmpty_iff s
        dsimp only at hEmpty ⊢
        rw [ite_ne_left_iff, hEmpty]
        simp
  rw [hTitle]
  constructor
  · rintro ⟨s, hs, c, hc, hChar⟩
    obtain ⟨w, rfl, hLead⟩ := nameless?_eq_some_iff.mp hs
    obtain ⟨x, rfl⟩ := List.head?_eq_some_iff.mp hc
    exact ⟨w, c, x, rfl, hLead, hChar⟩
  · rintro ⟨w, c, x, rfl, hLead, hChar⟩
    exact ⟨c :: x, nameless?_eq_some_iff.mpr ⟨w, rfl, hLead⟩, c, rfl, hChar⟩

end Document

end SketchRepair
