import SketchRepair.Proofs.Document.WrappedRegions

/-!
# SketchRepair — markup in wrapped rules

What is put into a style element should be rules and nothing else: an element of the page
that gets into it is no longer seen. A region that is wrapped in its place ends before the
next tag, so it holds no markup. A set of rules that stands alone is taken by other marks.
Nothing that begins a tag stands in its selectors, but between the braces of a rule anything
may stand but a closing brace. So the markup that is moved with it, if any, is markup between
these braces.

* `HoldsMarkup` — a tag begins in a text;
* `Rule`, `exists_rules_of_ruleSet?` — what stands alone is a row of rules;
* `holdsMarkup_rules_iff` — where markup can be in it;
* `wrapBareStyle_holds_markup` — **markup in wrapped rules**: none in place, and of what is
  moved exactly what stands in braces.
-/

namespace SketchRepair

namespace Document

variable {t x y css page : Text}

-- ---------------------------------------------------------------------------
-- Markup
-- ---------------------------------------------------------------------------

/-- A `<`, a slash or none, and a word character stand in the text. -/
def HoldsMarkup (t : Text) : Prop :=
  ∃ c, isWord c = true ∧ (['<', c] <:+: t ∨ ['<', '/', c] <:+: t)

theorem not_holdsMarkup (h : '<' ∉ t) : ¬ HoldsMarkup t := by
  rintro ⟨c, -, hIn | hIn⟩
  · exact h (hIn.subset (List.mem_cons_self ..))
  · exact h (hIn.subset (List.mem_cons_self ..))

/-- A text in which no tag begins holds no markup. -/
theorem TagFree.not_holdsMarkup (h : TagFree t) : ¬ HoldsMarkup t := by
  have hNone {s : Text} (hs : s <:+ t) (hTag : ∀ u, beginsTag (s ++ u) = true) : False := by
    rcases eq_or_ne s [] with rfl | hne
    · exact absurd (hTag []) (by decide)
    · exact Bool.false_ne_true ((h s hs hne []).symm.trans (hTag _))
  rintro ⟨c, hWord, ⟨a, b, hText⟩ | ⟨a, b, hText⟩⟩
  · rw [List.append_assoc] at hText
    exact hNone ⟨a, hText⟩ fun u => beginsTag_iff.mpr ⟨c, b ++ u, hWord, .inl rfl⟩
  · rw [List.append_assoc] at hText
    exact hNone ⟨a, hText⟩ fun u => beginsTag_iff.mpr ⟨c, b ++ u, hWord, .inr rfl⟩

/-- Markup does not run over a character that has no part in it. -/
theorem holdsMarkup_append_cons_iff {b : Char} (hWord : isWord b = false) (hLt : b ≠ '<')
    (hSlash : b ≠ '/') : HoldsMarkup (x ++ b :: y) ↔ HoldsMarkup x ∨ HoldsMarkup y := by
  have hOpening {c : Char} (hc : isWord c = true) : b ∉ ['<', c] := by
    rintro hMem
    rcases List.mem_pair.mp hMem with h | rfl
    · exact hLt h
    · exact Bool.false_ne_true (hWord.symm.trans hc)
  have hClosing {c : Char} (hc : isWord c = true) : b ∉ ['<', '/', c] := by
    intro hMem
    rcases List.mem_cons.mp hMem with h | hMem
    · exact hLt h
    rcases List.mem_pair.mp hMem with h | rfl
    · exact hSlash h
    · exact Bool.false_ne_true (hWord.symm.trans hc)
  constructor
  · rintro ⟨c, hc, h | h⟩
    · exact ((Text.infix_append_cons_iff (hOpening hc)).mp h).imp
        (⟨c, hc, .inl ·⟩) (⟨c, hc, .inl ·⟩)
    · exact ((Text.infix_append_cons_iff (hClosing hc)).mp h).imp
        (⟨c, hc, .inr ·⟩) (⟨c, hc, .inr ·⟩)
  · rintro (⟨c, hc, h⟩ | ⟨c, hc, h⟩)
    · exact ⟨c, hc, h.imp ((Text.infix_append_cons_iff (hOpening hc)).mpr <| .inl ·)
        ((Text.infix_append_cons_iff (hClosing hc)).mpr <| .inl ·)⟩
    · exact ⟨c, hc, h.imp ((Text.infix_append_cons_iff (hOpening hc)).mpr <| .inr ·)
        ((Text.infix_append_cons_iff (hClosing hc)).mpr <| .inr ·)⟩

/-- What line ends stand around a text does not matter. -/
theorem holdsMarkup_trimLineEnds_iff (t : Text) :
    HoldsMarkup (trimLineEnds t) ↔ HoldsMarkup t := by
  have hEnd {c : Char} (hc : isLineEnd c = true) (a b : Text) :
      HoldsMarkup (a ++ c :: b) ↔ HoldsMarkup a ∨ HoldsMarkup b := by
    rw [isLineEnd, Bool.or_eq_true, decide_eq_true_eq, decide_eq_true_eq] at hc
    rcases hc with rfl | rfl
    · exact holdsMarkup_append_cons_iff (by decide) (by decide) (by decide)
    · exact holdsMarkup_append_cons_iff (by decide) (by decide) (by decide)
  have hNone : ¬ HoldsMarkup [] := not_holdsMarkup List.not_mem_nil
  have hFront (a : Text) (ha : ∀ c ∈ a, isLineEnd c = true) (b : Text) :
      HoldsMarkup (a ++ b) ↔ HoldsMarkup b := by
    induction a with
    | nil => rfl
    | cons c a ih =>
      obtain ⟨hc, hLater⟩ := List.forall_mem_cons.mp ha
      have hHere := hEnd hc [] (a ++ b)
      rw [List.nil_append] at hHere
      rw [List.cons_append, hHere, ih hLater, or_iff_right hNone]
  have hBack (b : Text) (hb : ∀ c ∈ b, isLineEnd c = true) (a : Text) :
      HoldsMarkup (a ++ b) ↔ HoldsMarkup a := by
    cases b with
    | nil => rw [List.append_nil]
    | cons c b =>
      obtain ⟨hc, hLater⟩ := List.forall_mem_cons.mp hb
      have hPlain := hFront b hLater []
      rw [List.append_nil] at hPlain
      rw [hEnd hc, hPlain, or_iff_left hNone]
  obtain ⟨before, behind, hBefore, hBehind, ht⟩ := exists_lineEnds_trimLineEnds t
  conv_rhs => rw [ht, hBack behind hBehind, hFront before hBefore]

-- ---------------------------------------------------------------------------
-- Rules that stand alone
-- ---------------------------------------------------------------------------

/-- A rule, taken apart at its braces. What stands before the selector belongs to it. -/
structure Rule where
  selector : Text
  body : Text

namespace Rule

def text (r : Rule) : Text := r.selector ++ '{' :: (r.body ++ ['}'])

/-- No brace and no angle bracket stands in the selector; the body is not empty and ends
at the first closing brace. -/
structure WellFormed (r : Rule) : Prop where
  selector : ∀ c ∈ r.selector, isSelectorRest c = true
  body_ne_nil : r.body ≠ []
  body : '}' ∉ r.body

theorem WellFormed.lt_not_mem {r : Rule} (h : r.WellFormed) : '<' ∉ r.selector := fun hMem =>
  absurd (h.selector '<' hMem) (by decide)

end Rule

/-- Markup in a row of rules stands between the braces of one of them. -/
theorem holdsMarkup_rules_iff {rules : List Rule} (h : ∀ r ∈ rules, r.WellFormed) :
    HoldsMarkup (rules.flatMap Rule.text) ↔ ∃ r ∈ rules, HoldsMarkup r.body := by
  induction rules with
  | nil => simpa using not_holdsMarkup List.not_mem_nil
  | cons r rules ih =>
    obtain ⟨hHere, hLater⟩ := List.forall_mem_cons.mp h
    have hText : (r :: rules).flatMap Rule.text =
        r.selector ++ '{' :: (r.body ++ '}' :: rules.flatMap Rule.text) := by
      simp [Rule.text]
    rw [hText, holdsMarkup_append_cons_iff (by decide) (by decide) (by decide),
      holdsMarkup_append_cons_iff (by decide) (by decide) (by decide),
      or_iff_right (not_holdsMarkup hHere.lt_not_mem), ih hLater]
    simp

/-- A class of characters without brackets and braces belongs to a selector. -/
theorem isSelectorRest_of_class {q : Char → Bool} (hBrace : q '{' = false) (hLt : q '<' = false)
    (hGt : q '>' = false) {c : Char} (h : q c = true) : isSelectorRest c = true := by
  simp [isSelectorRest, Text.ne_of_class h hBrace, Text.ne_of_class h hLt,
    Text.ne_of_class h hGt]

theorem isSelectorRest_of_isBlank {c : Char} (h : isBlank c = true) : isSelectorRest c = true :=
  isSelectorRest_of_class (by decide) (by decide) (by decide) h

theorem isSelectorRest_of_isWord {c : Char} (h : isWord c = true) : isSelectorRest c = true :=
  isSelectorRest_of_class (by decide) (by decide) (by decide) h

theorem isSelectorRest_of_opensFurtherRule {c : Char} (h : opensFurtherRule c = true) :
    isSelectorRest c = true := by
  simp only [opensFurtherRule, Bool.or_eq_true, decide_eq_true_eq] at h
  rcases h with (((h | rfl) | rfl) | rfl) | rfl
  · exact isSelectorRest_of_isWord h
  all_goals decide

/-- How a set of rules may begin belongs to a selector. -/
theorem isSelectorRest_of_leadSelector? {lead : Text} (h : leadSelector? t = some lead) :
    ∀ c ∈ lead, isSelectorRest c = true := by
  unfold leadSelector? at h
  split at h
  · next hWord =>
    obtain rfl := Option.some.inj h
    have hTake {w : Text} (hw : w.length = 4) (hStarts : Text.startsWith w t = true) :
        t.take 4 = w := by
      obtain ⟨r, rfl⟩ := Text.startsWith_iff.mp hStarts
      rw [← hw, List.take_left]
    rcases Bool.or_eq_true_iff.mp hWord with hBody | hHtml
    · rw [hTake rfl hBody]
      exact List.all_eq_true.mp (by decide)
    · rw [hTake rfl hHtml]
      exact List.all_eq_true.mp (by decide)
  · split at h
    · next c r _ =>
      dsimp only at h
      split at h
      · next hMark =>
        obtain rfl := Option.some.inj h
        refine List.forall_mem_cons.mpr ⟨?_, fun d hd => ?_⟩
        · rcases hMark.1 with rfl | rfl
          · decide
          · decide
        · have hName := List.mem_takeWhile_imp hd
          rw [isSelectorName, Bool.or_eq_true, decide_eq_true_eq] at hName
          rcases hName with hName | rfl
          · exact isSelectorRest_of_isWord hName
          · decide
      · simp at h
    · simp at h

/-- A selector goes on to the brace that opens a rule, and the rule to the first that
closes it. -/
theorem exists_rule_of_selectorAndRule? {rule front : Text} (h : selectorAndRule? t = some rule)
    (hFront : ∀ c ∈ front, isSelectorRest c = true) :
    ∃ r : Rule, r.WellFormed ∧ front ++ rule = r.text := by
  rw [selectorAndRule?] at h
  dsimp only at h
  split at h
  case h_2 => simp at h
  next s hSelector =>
  split at h
  case isTrue => simp at h
  next hClosed =>
  rw [not_or] at hClosed
  obtain rfl := Option.some.inj h
  refine ⟨⟨front ++ t.takeWhile isSelectorRest, s.takeWhile (· ≠ '}')⟩, ⟨?_, ?_, ?_⟩, ?_⟩
  · intro c hc
    rcases List.mem_append.mp hc with hc | hc
    · exact hFront c hc
    · exact List.mem_takeWhile_imp hc
  · exact fun hNil => hClosed.1 (List.isEmpty_iff.mpr hNil)
  · intro hMem
    exact absurd (List.mem_takeWhile_imp hMem) (by decide)
  · simp [Rule.text]

theorem exists_rules_of_furtherRules (n : Nat) : ∀ t : Text, ∃ rules : List Rule,
    (∀ r ∈ rules, r.WellFormed) ∧ furtherRules n t = rules.flatMap Rule.text := by
  have hNone : ∃ rules : List Rule, (∀ r ∈ rules, r.WellFormed) ∧ [] = rules.flatMap Rule.text :=
    ⟨[], List.forall_mem_nil _, rfl⟩
  induction n with
  | zero => exact fun _ => hNone
  | succ n ih =>
    intro t
    rw [furtherRules]
    dsimp only
    split
    case h_2 => exact hNone
    next c r hGap =>
    split
    case isFalse => exact hNone
    next hOpens =>
    split
    case h_2 => exact hNone
    next rule hRule =>
    have hFront : ∀ d ∈ t.takeWhile isBlank ++ [c], isSelectorRest d = true := by
      intro d hd
      rcases List.mem_append.mp hd with hd | hd
      · exact isSelectorRest_of_isBlank (List.mem_takeWhile_imp hd)
      · rw [List.mem_singleton.mp hd]
        exact isSelectorRest_of_opensFurtherRule hOpens
    obtain ⟨first, hFirst, hText⟩ := exists_rule_of_selectorAndRule? hRule hFront
    obtain ⟨rules, hRules, hLater⟩ := ih (t.drop (t.takeWhile isBlank ++ [c] ++ rule).length)
    refine ⟨first :: rules, List.forall_mem_cons.mpr ⟨hFirst, hRules⟩, ?_⟩
    rw [hLater, hText, List.flatMap_cons]

/-- What stands alone is a row of rules. -/
theorem exists_rules_of_ruleSet? (h : ruleSet? t = some css) : ∃ rules : List Rule,
    (∀ r ∈ rules, r.WellFormed) ∧ css = rules.flatMap Rule.text := by
  rw [ruleSet?] at h
  dsimp only at h
  split at h
  · simp at h
  next lead hLead =>
  obtain ⟨rule, hRule, rfl⟩ := Option.map_eq_some_iff.mp h
  have hFront : ∀ d ∈ t.takeWhile isBlank ++ lead, isSelectorRest d = true := by
    intro d hd
    rcases List.mem_append.mp hd with hd | hd
    · exact isSelectorRest_of_isBlank (List.mem_takeWhile_imp hd)
    · exact isSelectorRest_of_leadSelector? hLead d hd
  obtain ⟨first, hFirst, hText⟩ := exists_rule_of_selectorAndRule? hRule hFront
  obtain ⟨rules, hRules, hLater⟩ := exists_rules_of_furtherRules t.length
    (t.drop (t.takeWhile isBlank ++ lead ++ rule).length)
  refine ⟨first :: rules, List.forall_mem_cons.mpr ⟨hFirst, hRules⟩, ?_⟩
  rw [hLater, hText, List.flatMap_cons]

theorem exists_rules_of_standalone? {before behind : Text}
    (h : standalone? page = some (before, css, behind)) : ∃ rules : List Rule,
      (∀ r ∈ rules, r.WellFormed) ∧ css = rules.flatMap Rule.text := by
  rw [standalone?] at h
  split at h
  · next css' hHere =>
    obtain ⟨-, rfl, -⟩ : [] = before ∧ css' = css ∧ page.drop css'.length = behind := by
      simpa using h
    exact exists_rules_of_ruleSet? hHere
  · obtain ⟨⟨front, lead, css'⟩, hFound, he⟩ := Option.map_eq_some_iff.mp h
    obtain ⟨-, rfl, -⟩ : front ++ lead = before ∧ css' = css ∧ _ := by simpa using he
    obtain ⟨u, -, hLine⟩ := Text.search_eq_some hFound
    cases u with
    | nil => simp [ruleSetBehindLine?] at hLine
    | cons c u =>
      rw [ruleSetBehindLine?] at hLine
      split at hLine
      · obtain ⟨css'', hSet, he⟩ := Option.map_eq_some_iff.mp hLine
        obtain ⟨-, rfl⟩ := Prod.mk.inj he
        exact exists_rules_of_ruleSet? hSet
      · simp at hLine

-- ---------------------------------------------------------------------------
-- What is wrapped
-- ---------------------------------------------------------------------------

/-- **Markup in wrapped rules**: where regions are wrapped in their places, none of the style
elements holds markup. Where instead a row of rules is moved, its style element holds markup
exactly if markup stands between the braces of one of the rules. -/
theorem wrapBareStyle_holds_markup (limit : Nat) (page : Text) :
    (∃ places, Text.Separate page places ∧
        wrapBareStyle limit page =
          (Text.inPlace (places.map fun p => (p, styleElement (Text.between p page))) page,
            places.length) ∧
        ∀ p ∈ places, ¬ HoldsMarkup (Text.between p page)) ∨
      ((wrapRegions limit page).2 = 0 ∧ hasStyleTag page = false ∧
        ∃ (before : Text) (rules : List Rule) (behind moved : Text),
          (∀ r ∈ rules, r.WellFormed) ∧
          page = before ++ rules.flatMap Rule.text ++ behind ∧
          Moved before (rules.flatMap Rule.text) behind moved ∧
          wrapBareStyle limit page = (moved, 1) ∧
          (HoldsMarkup (trimLineEnds (rules.flatMap Rule.text)) ↔
            ∃ r ∈ rules, HoldsMarkup r.body)) := by
  rcases wrapBareStyle_cases limit page with hSame | ⟨hNone, hStyle, moved, hMoved, hSame⟩
  · obtain ⟨places, hSeparate, -, hLength, hAll, hPage⟩ := exists_tagFree_places limit page
    refine .inl ⟨places, hSeparate, ?_, fun p hp => (hAll p hp).2.not_holdsMarkup⟩
    rw [hSame, hPage, hLength]
  · obtain ⟨before, css, behind, hFound, -, hPut⟩ := exists_standalone_of_moved hMoved
    obtain ⟨rules, hRules, rfl⟩ := exists_rules_of_standalone? hFound
    refine .inr ⟨hNone, hStyle, before, rules, behind, moved, hRules, (standalone?_eq hFound).1,
      hPut, hSame, ?_⟩
    rw [holdsMarkup_trimLineEnds_iff, holdsMarkup_rules_iff hRules]

/-- A paragraph between the braces of a rule is moved with it. -/
example : wrapBareStyle 5 "<body>\n.box \x7b color: red; <p>text</p> \x7d\n</body>".toList =
    ("<style>\n.box \x7b color: red; <p>text</p> \x7d\n</style>\n<body>\n\n</body>".toList, 1) := by
  decide +kernel

end Document

end SketchRepair
