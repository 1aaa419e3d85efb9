import SketchRepair.Proofs.Answer.Whole
import SketchRepair.Proofs.Json.LineFeed
import SketchRepair.Proofs.Text.FirstOccurrence

/-!
# SketchRepair — arrays between fences, with prose around them

An oracle likes to put its JSON between two fences, to say something first, and to go on
afterwards. The block between the fences is the array. A bare array, though, is looked for
from the first place where one might begin to the last where one might end, and either may
lie in the prose. Then a line of what is found begins with a fence, and so begins no line of
a JSON text: such a capture denotes nothing, and the block has its turn. So the array is
read in both orders, whatever the prose may be.

* `fencedText?_inProse` — the block between the fences;
* `bareArray?_inProse` — the bare array is the same, or a line of it begins with a fence;
* `items?_of_fence_line` — then it denotes nothing, if no number is too long;
* `array?_inProse` — the items of the answer.
-/

namespace SketchRepair

namespace Answer

variable {before t behind core gap gap' u v : Text} {items : List Json}

/-- A text between fences, with prose around it. -/
def inProse (before t behind : Text) : Text :=
  before ++ "\n```json\n".toList ++ t ++ "\n```".toList ++ behind

-- ---------------------------------------------------------------------------
-- The block between the fences
-- ---------------------------------------------------------------------------

/-- No fence begins at the end of a line and goes on in the next. -/
theorem not_infix_line (h : ¬ fence <:+: t) : ¬ fence <:+: t ++ ['\n'] ++ fence.dropLast := by
  rw [List.append_assoc, List.singleton_append, Text.infix_append_cons_iff (by decide), not_or]
  exact ⟨h, by decide⟩

theorem fencedText?_inProse (hBefore : ¬ fence <:+: before) (hBody : ¬ fence <:+: t)
    (behind : Text) :
    fencedText? (inProse before t behind) = some (Text.trim ('\n' :: t ++ ['\n'])) := by
  have hOpen : Text.cut? fence (inProse before t behind) =
      some (before ++ ['\n'], "json\n".toList ++ t ++ "\n```".toList ++ behind) := by
    have hText : inProse before t behind = before ++ ['\n'] ++ fence ++
        ("json\n".toList ++ t ++ "\n```".toList ++ behind) := by
      simp [inProse, fence]
    rw [hText]
    exact Text.cut?_of_first (not_infix_line hBefore)
  have hLabel : dropLabel ["json".toList] ("json\n".toList ++ t ++ "\n```".toList ++ behind) =
      '\n' :: t ++ ['\n'] ++ fence ++ behind := by
    simp [dropLabel, Text.after?, fence]
  have hClose : Text.cut? fence ('\n' :: t ++ ['\n'] ++ fence ++ behind) =
      some ('\n' :: t ++ ['\n'], behind) := by
    refine Text.cut?_of_first (not_infix_line ?_)
    rw [← List.nil_append ('\n' :: t), Text.infix_append_cons_iff (by decide), not_or]
    exact ⟨by decide, hBody⟩
  rw [fencedText?, fencedBlock?, hOpen]
  dsimp only
  rw [hLabel, hClose, Option.map_some]

-- ---------------------------------------------------------------------------
-- The bare array
-- ---------------------------------------------------------------------------

/-- A line that begins with a fence. -/
abbrev fenceLine : Text := ['\n', '\x60']

theorem exists_of_opensArray (h : opensArray t = true) : ∃ r, t = '[' :: r := by
  unfold opensArray at h
  split at h
  · next r => exact ⟨r, rfl⟩
  · simp at h

/-- Where an array of objects begins, the bare array begins there or before. -/
theorem exists_bareArray?_append (hOpens : opensArray v = true) (u : Text) :
    ∃ front w, u = front ++ w ∧ opensArray (w ++ v) = true ∧
      bareArray? (u ++ v) = (lastArrayEnd? (w ++ v)).map (w ++ v).take := by
  have hHere : (if opensArray v then some v else none) = some v := if_pos hOpens
  obtain ⟨front, w, found, rfl, hMatch, hSearch⟩ :=
    Text.exists_search_append (m := fun t => if opensArray t then some t else none) hHere u
  split at hMatch
  · next hFound =>
    obtain rfl := Option.some.inj hMatch
    exact ⟨front, w, rfl, hFound, by rw [bareArray?, hSearch]⟩
  · simp at hMatch

/-- The last array in front of a fence ends there, or behind the fence. -/
theorem lastArrayEnd?_fence (hCore : Json.Framed core) (hGap : Json.Spaces gap) (behind : Text) :
    ∃ n, lastArrayEnd? (core ++ (gap ++ "\n```".toList ++ behind)) = some n ∧
      (n = core.length ∨ fenceLine <:+: (core ++ (gap ++ "\n```".toList ++ behind)).take n) := by
  have hNone : '\x7d' ∉ gap ++ "\n```".toList := by
    rw [List.mem_append]
    rintro (hMem | hMem)
    · exact absurd (hGap _ hMem) (by decide)
    · exact absurd hMem (by decide)
  have hBehind := lastArrayEnd?_append_of_not_mem hNone behind
  cases hEnd : lastArrayEnd? behind with
  | none =>
    rw [hEnd] at hBehind
    exact ⟨core.length, lastArrayEnd?_framed hCore hBehind, .inl rfl⟩
  | some n =>
    rw [hEnd] at hBehind
    refine ⟨_, lastArrayEnd?_append core hBehind, .inr ?_⟩
    rw [List.take_length_add_append, List.take_length_add_append]
    exact ⟨core ++ gap, ['\x60', '\x60'] ++ behind.take n, by simp⟩

/-- The bare array of an answer is that between the fences, or a line of it begins with a fence. -/
theorem bareArray?_inProse (hCore : Json.Framed core) (hGap : Json.Spaces gap)
    (hGap' : Json.Spaces gap') (before behind : Text) :
    ∃ u, bareArray? (inProse before (gap ++ (core ++ gap')) behind) = some u ∧
      (u = core ∨ fenceLine <:+: u) := by
  have hText : inProse before (gap ++ (core ++ gap')) behind =
      before ++ ("\n```json\n".toList ++ gap) ++ (core ++ (gap' ++ "\n```".toList ++ behind)) := by
    simp [inProse]
  obtain ⟨n, hEnd, hLast⟩ := lastArrayEnd?_fence hCore hGap' behind
  obtain ⟨front, w, hSplit, hOpens, hBare⟩ := exists_bareArray?_append
    (opensArray_append hCore (gap' ++ "\n```".toList ++ behind))
    (before ++ ("\n```json\n".toList ++ gap))
  rw [hText, hBare, lastArrayEnd?_append w hEnd, Option.map_some, List.take_length_add_append]
  refine ⟨_, rfl, ?_⟩
  rcases Text.suffix_append_iff.mp ⟨front, hSplit.symm⟩ with hFence | ⟨w, -, rfl⟩
  · -- no bracket stands between the fence and the array
    obtain rfl : w = [] := by
      cases w with
      | nil => rfl
      | cons c w =>
        obtain ⟨r, hr⟩ := exists_of_opensArray hOpens
        rw [List.cons_append, List.cons.injEq] at hr
        have hMem := hFence.subset (List.mem_cons_self (a := c))
        rw [hr.1, List.mem_append] at hMem
        rcases hMem with hMem | hMem
        · exact absurd hMem (by decide)
        · exact absurd (hGap _ hMem) (by decide)
    rw [List.nil_append]
    exact hLast.imp_left fun h => by rw [h, List.take_left]
  · refine .inr (List.IsInfix.trans ?_ (List.prefix_append _ _).isInfix)
    exact ⟨w, "``json\n".toList ++ gap, by simp⟩

-- ---------------------------------------------------------------------------
-- Numbers that are not too long
-- ---------------------------------------------------------------------------

/-- No run of digits in the text is too long to be read. -/
def Readable (t : Text) : Prop := ∀ n run, Json.IsOverlong n run → ¬ run <:+: t

theorem readable_of_length (h : t.length ≤ Decimal.digitLimit) : Readable t := by
  intro n run hRun hInfix
  have hLength := hInfix.length_le
  have := hRun.length
  have := hRun.limit
  omega

theorem Readable.of_infix (h : Readable t) (hu : u <:+: t) : Readable u :=
  fun n run hRun hInfix => h n run hRun (hInfix.trans hu)

/-- No run of digits goes on behind a character that is none. -/
theorem Readable.append_cons {c : Char} (hu : Readable u) (hc : Json.isAsciiDigit c = false)
    (hv : Readable v) : Readable (u ++ c :: v) := by
  intro n run hRun
  have hNone : c ∉ run := fun hMem => Bool.false_ne_true (hc.symm.trans (hRun.digits c hMem))
  rw [Text.infix_append_cons_iff hNone, not_or]
  exact ⟨hu n run hRun, hv n run hRun⟩

theorem Readable.cons {c : Char} (hc : Json.isAsciiDigit c = false) (h : Readable t) :
    Readable (c :: t) :=
  Readable.append_cons (u := []) (readable_of_length (Nat.zero_le _)) hc h

theorem readable_inProse (hBefore : Readable before) (hBody : Readable t)
    (hBehind : Readable behind) : Readable (inProse before t behind) := by
  have hFence : Readable (fence ++ behind) :=
    .cons (by decide) (.cons (by decide) (.cons (by decide) hBehind))
  have hLine : Readable "```json".toList := readable_of_length (by decide)
  have hText : inProse before t behind =
      before ++ '\n' :: ("```json".toList ++ '\n' :: (t ++ '\n' :: (fence ++ behind))) := by
    simp [inProse, fence]
  rw [hText]
  exact hBefore.append_cons (by decide)
    (hLine.append_cons (by decide) (hBody.append_cons (by decide) hFence))

/-- A capture of which a line begins with a fence denotes nothing. -/
theorem items?_of_fence_line (hLine : fenceLine <:+: u) (hShort : Readable u) :
    items? u = .ok none := by
  unfold items?
  cases hParse : Json.parse u with
  | ok found => exact absurd hLine (Json.not_infix_of_parse hParse (by decide))
  | error fault =>
    cases fault with
    | malformed offset => rfl
    | tooLong n =>
      obtain ⟨run, hRun, hInfix⟩ := Json.exists_run_of_parse hParse
      exact absurd hInfix (hShort n run hRun)

-- ---------------------------------------------------------------------------
-- The items of the answer
-- ---------------------------------------------------------------------------

/-- A framed text between blanks is what trimming leaves. -/
theorem trim_framed (hCore : Json.Framed core) (hGap : Json.Spaces gap)
    (hGap' : Json.Spaces gap') : Text.trim (gap ++ core ++ gap') = core := by
  obtain ⟨gap₁, rest, -, hOpens⟩ := hCore.opens
  obtain ⟨front, gap₂, -, hCloses⟩ := hCore.closes
  have hBlank {g : Text} (hg : Json.Spaces g) : ∀ c ∈ g, isBlank c = true :=
    fun c hc => Json.isBlank_of_isSpace (hg c hc)
  refine Text.trim_padded (hBlank hGap) (hBlank hGap') ?_ ?_ ?_
  · rw [hOpens]
    rintro c hc
    obtain rfl : '[' = c := Option.some.inj hc
    decide
  · rw [hCloses, List.getLast?_concat]
    rintro c hc
    obtain rfl : ']' = c := Option.some.inj hc
    decide
  · rw [hOpens]
    exact List.cons_ne_nil _ _

/--
**An array between fences.** The answer of an oracle is some prose, a line that opens a
block of JSON, an array of objects that is not empty, a line that closes the block, and
whatever else. If no fence stands in front of the block or in it, and no number is too long,
the items of the answer are those of the array, in both orders.
-/
theorem array?_inProse (hParse : Json.parse t = .ok (.arr items)) (hItems : items ≠ [])
    (hObjects : ∀ v ∈ items, v.isObject = true) (hBefore : ¬ fence <:+: before)
    (hBody : ¬ fence <:+: t) (hShort : Readable before ∧ Readable t ∧ Readable behind)
    (bareFirst : Bool) : array? bareFirst (inProse before t behind) = .ok (some items) := by
  have hReadable := readable_inProse hShort.1 hShort.2.1 hShort.2.2
  obtain ⟨gap, core, gap', rfl, hGap, hGap', hWritten⟩ := Json.parse_eq_ok_iff.mp hParse
  have hCore := hWritten.framed hItems hObjects
  have hDenotes : items? core = .ok (some items) := by
    refine items?_of_standsFor ?_ (.array hItems hObjects)
    exact Json.parse_eq_ok_iff.mpr
      ⟨[], core, [], by simp, List.forall_mem_nil _, List.forall_mem_nil _, hWritten⟩
  have hFenced : fencedItems? (inProse before (gap ++ (core ++ gap')) behind) =
      .ok (some items) := by
    have hTrim : Text.trim ('\n' :: (gap ++ (core ++ gap')) ++ ['\n']) = core := by
      have hLead : Json.Spaces ('\n' :: gap) := List.forall_mem_cons.mpr ⟨by decide, hGap⟩
      have hTrail : Json.Spaces (gap' ++ ['\n']) :=
        List.forall_mem_append.mpr ⟨hGap', List.forall_mem_singleton.mpr (by decide)⟩
      simpa using trim_framed hCore hLead hTrail
    rw [fencedItems?_eq, fencedText?_inProse hBefore hBody, hTrim, firstItems_toList]
    exact hDenotes
  have hBare : Spares items (bareItems? (inProse before (gap ++ (core ++ gap')) behind)) := by
    obtain ⟨u, hBare, rfl | hLine⟩ := bareArray?_inProse hCore hGap hGap' before behind
    · rw [bareItems?, hBare]
      exact .inr hDenotes
    · rw [bareItems?, hBare]
      exact .inl (items?_of_fence_line hLine (hReadable.of_infix (isInfix_of_bareArray? hBare)))
  have hAnswer : (inProse before (gap ++ (core ++ gap')) behind).isEmpty = false := by
    rw [← Bool.not_eq_true, List.isEmpty_iff]
    simp [inProse]
  unfold array?
  rw [hAnswer]
  cases bareFirst with
  | false => simp only [Bool.false_eq_true, if_false, hFenced]
  | true =>
    simp only [Bool.false_eq_true, if_false, if_true, hFenced]
    rcases hBare with hNone | hSame
    · rw [hNone]
    · rw [hSame]

/-- Prose in which an array seems to begin. -/
def opening : Text := "Put [\x7b into the line".toList

/-- Prose in which an array seems to end. -/
def closing : Text := " for the \x7d] that is there".toList

/-- An array of one object. -/
def oneFix : Text := "[ \x7b\"fixed\": \"[\x7b\"\x7d ]".toList

/-- The one item of `oneFix`. -/
def fixItem : Json := .obj [("fixed".toList, .str "[\x7b".toList)]

theorem array?_inProse_oneFix :
    array? true (inProse opening oneFix closing) = .ok (some [fixItem]) ∧
      array? false (inProse opening oneFix closing) = .ok (some [fixItem]) := by
  have hParse : Json.parse oneFix = .ok (.arr [fixItem]) := by cbv
  have hShort : Readable opening ∧ Readable oneFix ∧ Readable closing :=
    ⟨readable_of_length (by decide), readable_of_length (by decide),
      readable_of_length (by decide)⟩
  have hBoth := array?_inProse hParse (by simp) (by simp [fixItem, Json.isObject]) (by decide)
    (by decide) hShort
  exact ⟨hBoth true, hBoth false⟩

end Answer

end SketchRepair
