import SketchRepair.Proofs.Script.Name
import SketchRepair.Proofs.Script.Nesting
import SketchRepair.Script.Scope

/-!
# SketchRepair — the blocks around a place of a script

Which blocks a place stands in can be said without a scan. A brace is open there if none of
those behind it closes it, and what it opens is told by the last keyword before it, unless
another brace or the end of a statement stands between the two. A semicolon between
parentheses, as in the head of a loop, ends no statement.

The scan knows all this of every place it comes to, with no more than a stack of keywords,
the keyword it met last and the number of open parentheses.

* `OpenBrace`, `LastKeyword`, `Encloses` — open braces, and what they open;
* `Keyword.here?_eq_some_iff` — where a keyword begins;
* `Opened.append`, `Opened.open`, `Opened.close` — what becomes of the stack;
* `Describes.step` — one character of the script keeps what the scan knows true;
* `Describes.read` — so does any part of it;
* `Describes.conditional?_eq_some_iff` — the innermost conditional block around the place.
-/

namespace SketchRepair

namespace Script

-- ---------------------------------------------------------------------------
-- Blocks, without a scan
-- ---------------------------------------------------------------------------

/-- The keyword begins here as a word, behind the character `prev`. -/
structure Keyword.Begins (k : Keyword) (prev : Option Char) (t : Text) : Prop where
  starts : isWordAt prev = false
  ends : ∃ rest, t = k.text ++ rest ∧ isWordAt rest.head? = false

/-- The number of parentheses that are open at the end of a text; one that closes none does
not count. -/
def parenDepth (t : Text) : Nat :=
  t.foldl (fun d c => if c = '(' then d + 1 else if c = ')' then d - 1 else d) 0

/-- The last keyword that begins in `before`, behind every `{` there and every `;` that
stands outside of parentheses. -/
def LastKeyword (before behind : Text) (k : Keyword) : Prop :=
  ∃ x z, before = x ++ z ∧ z ≠ [] ∧ k.Begins x.getLast? (z ++ behind) ∧
    '{' ∉ z ∧ (∀ u v, z = u ++ ';' :: v → parenDepth (x ++ u) ≠ 0) ∧
    ∀ x' z' k', before = x' ++ z' → z' ≠ [] → Keyword.Begins k' x'.getLast? (z' ++ behind) →
      x'.length ≤ x.length

/-- A brace, with `a` before it and `b` behind it, that is open at the end of the text: a `}`
closes a brace when braces are nested between the two. -/
structure OpenBrace (t a b : Text) : Prop where
  text : t = a ++ '{' :: b
  unclosed : ∀ u v, b = u ++ '}' :: v → ¬ Nested '{' '}' u

/-- A block of the keyword `k`, whose brace stands behind `a`, is open between the two parts
of a script. -/
def Encloses (before behind a : Text) (k : Keyword) : Prop :=
  ∃ b, OpenBrace before a b ∧ LastKeyword a ('{' :: (b ++ behind)) k

/-- The innermost block that is open between two parts of a script and runs only under a
condition has the keyword `k`. -/
def InnermostConditional (before behind : Text) (k : Keyword) : Prop :=
  ∃ a, Encloses before behind a k ∧ k.isConditional = true ∧
    ∀ a' k', Encloses before behind a' k' → k'.isConditional = true → a'.length ≤ a.length

variable {before behind a b t u v x y z r : Text} {k : Keyword} {c : Char} {s : Scope}
  {prev prev' : Option Char} {tag : Option Keyword} {tags : List (Option Keyword)}

-- ---------------------------------------------------------------------------
-- Keywords
-- ---------------------------------------------------------------------------

theorem Keyword.isWord_of_mem (k : Keyword) : ∀ c ∈ k.text, isWord c = true := by
  cases k <;> exact List.all_eq_true.mp rfl

theorem Keyword.text_ne_nil (k : Keyword) : k.text ≠ [] := by
  cases k <;> decide

theorem Keyword.mem_all (k : Keyword) : k ∈ Keyword.all := by
  cases k <;> decide

theorem Keyword.eq_of_text_eq {k k' : Keyword} (h : k.text = k'.text) : k = k' := by
  cases k <;> cases k' <;> first | rfl | exact absurd h (by decide)

namespace Keyword.Begins

theorem exists_isWord (h : k.Begins prev t) : ∃ c r, t = c :: r ∧ isWord c = true := by
  obtain ⟨rest, rfl, -⟩ := h.ends
  obtain ⟨c, w, hText⟩ := List.exists_cons_of_ne_nil k.text_ne_nil
  exact ⟨c, w ++ rest, by rw [hText, List.cons_append],
    k.isWord_of_mem c (hText ▸ List.mem_cons_self ..)⟩

/-- A word that begins with another one goes on behind it. -/
theorem unique {k' : Keyword} (h : k.Begins prev t) (h' : k'.Begins prev' t) : k = k' := by
  have hLonger {k k' : Keyword} {w rest : Text} (hText : k'.text = k.text ++ w)
      (hEnd : isWordAt (w ++ rest).head? = false) : k.text = k'.text := by
    cases w with
    | nil => rw [hText, List.append_nil]
    | cons d w =>
      have hd := k'.isWord_of_mem d (by rw [hText]; simp)
      exact absurd hEnd (by simp [isWordAt, hd])
  obtain ⟨rest, rfl, hEnd⟩ := h.ends
  obtain ⟨rest', hText, hEnd'⟩ := h'.ends
  rcases List.append_eq_append_iff.mp hText with ⟨w, hLong, rfl⟩ | ⟨w, hLong, rfl⟩
  · exact Keyword.eq_of_text_eq (hLonger hLong hEnd)
  · exact (Keyword.eq_of_text_eq (hLonger hLong hEnd')).symm

/-- A keyword ends where a character stands that is none of a word. -/
theorem append_cons_iff (hc : isWord c = false) :
    k.Begins prev (t ++ c :: r) ↔ k.Begins prev t := by
  constructor
  · intro h
    obtain ⟨rest, hText, hEnd⟩ := h.ends
    rcases List.append_eq_append_iff.mp hText with ⟨w, hLong, hRest⟩ | ⟨w, rfl, rfl⟩
    · -- the keyword does not go on over the character
      cases w with
      | nil => exact ⟨h.starts, [], by rw [hLong, List.append_nil, List.append_nil], rfl⟩
      | cons d w =>
        have hd := k.isWord_of_mem d (by rw [hLong]; simp)
        rw [← (List.cons.inj hRest).1, hc] at hd
        simp at hd
    · exact ⟨h.starts, w, rfl, by rwa [isWordAt_head?_append_cons hc] at hEnd⟩
  · intro h
    obtain ⟨rest, rfl, hEnd⟩ := h.ends
    exact ⟨h.starts, rest ++ c :: r, List.append_assoc .., by rwa [isWordAt_head?_append_cons hc]⟩

end Keyword.Begins

theorem Keyword.here?_eq_some_iff : Keyword.here? prev t = some k ↔ k.Begins prev t := by
  have hEnds (k : Keyword) :
      ((Text.after? k.text t).any fun rest => !isWordAt rest.head?) = true ↔
        ∃ rest, t = k.text ++ rest ∧ isWordAt rest.head? = false := by
    simp [Option.any_eq_true, Text.after?_eq_some]
  unfold Keyword.here?
  constructor
  · intro h
    split at h
    · simp at h
    · next hPrev =>
      exact ⟨by simpa using hPrev, (hEnds k).mp (List.find?_eq_some_iff_append.mp h).1⟩
  · intro h
    rw [if_neg (by simp [h.starts])]
    cases hFound : Keyword.all.find? fun k =>
        (Text.after? k.text t).any fun rest => !isWordAt rest.head? with
    | none => exact absurd ((hEnds k).mpr h.ends) (List.find?_eq_none.mp hFound k k.mem_all)
    | some k' =>
      have h' : Keyword.Begins k' prev t :=
        ⟨h.starts, (hEnds k').mp (List.find?_eq_some_iff_append.mp hFound).1⟩
      rw [h.unique h']

-- ---------------------------------------------------------------------------
-- Open braces
-- ---------------------------------------------------------------------------

/-- A brace is open behind more text only if it is open before that, or opened there. -/
theorem OpenBrace.of_append (h : OpenBrace (t ++ v) a b) :
    (∃ b', OpenBrace t a b' ∧ b = b' ++ v) ∨ ∃ a', v = a' ++ '{' :: b := by
  rcases List.append_eq_append_iff.mp h.text with ⟨w, rfl, hv⟩ | ⟨w, rfl, hRest⟩
  · exact .inr ⟨w, hv⟩
  · cases w with
    | nil => exact .inr ⟨[], hRest.symm⟩
    | cons c w =>
      rw [List.cons_append, List.cons.injEq] at hRest
      obtain ⟨rfl, rfl⟩ := hRest
      refine .inl ⟨w, ⟨rfl, fun u v' hu => ?_⟩, rfl⟩
      exact h.unclosed u (v' ++ v) (by rw [hu, List.append_assoc, List.cons_append])

theorem Nested.not_openBrace (hv : Nested '{' '}' (x ++ '{' :: b)) (t : Text) :
    ¬ OpenBrace t a b := by
  intro h
  obtain ⟨u, w, hb, hu⟩ := hv.exists_close (by decide)
  exact h.unclosed u w hb hu

/-- Nested braces behind a brace do not close it, nor one around it, nor are they open. -/
theorem openBrace_append_cons_iff {a' b' : Text} (hb : Nested '{' '}' b) :
    OpenBrace (a ++ '{' :: b) a' b' ↔
      a' = a ∧ b' = b ∨ ∃ b'', OpenBrace a a' b'' ∧ b' = b'' ++ '{' :: b := by
  constructor
  · intro h
    rcases h.of_append with hOuter | ⟨w, hw⟩
    · exact .inr hOuter
    · cases w with
      | nil =>
        obtain rfl := (List.cons.inj hw).2
        exact .inl ⟨(List.append_cancel_right h.text).symm, rfl⟩
      | cons d w => exact absurd h (Nested.not_openBrace ((List.cons.inj hw).2 ▸ hb) _)
  · rintro (⟨rfl, rfl⟩ | ⟨b'', h, rfl⟩)
    · refine ⟨rfl, fun u v hText hu => ?_⟩
      have hOpened := hb.opened (u ++ ['}']) ⟨v, by rw [hText]; simp⟩
      have hClosed := hu.closed
      rw [List.count_append, List.count_append] at hOpened
      simp at hOpened
      omega
    · refine ⟨by rw [h.text, List.append_assoc, List.cons_append], fun u v hText hu => ?_⟩
      rcases List.append_eq_append_iff.mp hText with ⟨w, rfl, hw⟩ | ⟨w, rfl, hw⟩
      · -- the brace in between would have to be closed first
        cases w with
        | nil => simp at hw
        | cons d w =>
          obtain ⟨rfl, hRest⟩ := List.cons.inj hw
          have hBefore := count_le_of_unclosed h.unclosed b'' (List.prefix_refl b'')
          have hBehind := hb.opened w ⟨_, hRest.symm⟩
          have hClosed := hu.closed
          rw [List.count_append, List.count_append, List.count_cons_self,
            List.count_cons_of_ne (by decide)] at hClosed
          omega
      · cases w with
        | nil => simp at hw
        | cons d w =>
          obtain ⟨rfl, -⟩ := List.cons.inj hw
          exact h.unclosed u w rfl hu

-- ---------------------------------------------------------------------------
-- The stack
-- ---------------------------------------------------------------------------

/-- These are the tags of the braces that are open between two parts of a script, the
innermost first. -/
inductive Opened : (tags : List (Option Keyword)) → (before behind : Text) → Prop where
  | none {before behind : Text} (hNone : ∀ a b, ¬ OpenBrace before a b) : Opened [] before behind
  | brace {a b behind : Text} {tag : Option Keyword} {tags : List (Option Keyword)}
      (hTag : ∀ k, tag = some k ↔ LastKeyword a ('{' :: (b ++ behind)) k)
      (hInside : Nested '{' '}' b) (hAround : Opened tags a ('{' :: (b ++ behind))) :
      Opened (tag :: tags) (a ++ '{' :: b) behind

/-- Nested braces leave the stack as it was. -/
theorem Opened.append (h : Opened tags before (v ++ behind)) (hv : Nested '{' '}' v) :
    Opened tags (before ++ v) behind := by
  cases h with
  | none hNone =>
    refine .none fun a b hOpen => ?_
    rcases hOpen.of_append with ⟨b', hBefore, -⟩ | ⟨a', rfl⟩
    · exact hNone a b' hBefore
    · exact hv.not_openBrace _ hOpen
  | @brace a b _ tag tags hTag hInside hAround =>
    rw [← List.append_assoc] at hTag hAround
    rw [List.append_assoc, List.cons_append]
    exact .brace hTag (hInside.append hv) hAround

theorem Opened.open (h : Opened tags before ('{' :: behind))
    (hTag : ∀ k, tag = some k ↔ LastKeyword before ('{' :: behind) k) :
    Opened (tag :: tags) (before ++ ['{']) behind :=
  .brace (b := []) hTag nested_nil h

theorem Opened.close (h : Opened tags before ('}' :: behind)) :
    Opened tags.tail (before ++ ['}']) behind := by
  cases h with
  | none hNone =>
    refine .none fun a b hOpen => ?_
    rcases hOpen.of_append with ⟨b', hBefore, -⟩ | ⟨a', ha'⟩
    · exact hNone a b' hBefore
    · have hMem : '{' ∈ ['}'] := ha' ▸ by simp
      simp at hMem
  | @brace a b _ tag tags hTag hInside hAround =>
    have hPair : Nested '{' '}' ('{' :: (b ++ ['}'])) :=
      Nested.close (by decide) (by rwa [List.append_nil])
    have hText : '{' :: (b ++ '}' :: behind) = ('{' :: (b ++ ['}'])) ++ behind := by simp
    rw [hText] at hAround
    simpa using hAround.append hPair

/-- What is open around the innermost brace is open around the place. -/
theorem encloses_append_cons_iff {a' : Text} (hb : Nested '{' '}' b) :
    Encloses (a ++ '{' :: b) behind a' k ↔
      a' = a ∧ LastKeyword a ('{' :: (b ++ behind)) k ∨
        Encloses a ('{' :: (b ++ behind)) a' k := by
  constructor
  · rintro ⟨b', hOpen, hTag⟩
    rcases (openBrace_append_cons_iff hb).mp hOpen with ⟨rfl, rfl⟩ | ⟨b'', hOuter, rfl⟩
    · exact .inl ⟨rfl, hTag⟩
    · exact .inr ⟨b'', hOuter, by simpa using hTag⟩
  · rintro (⟨rfl, hTag⟩ | ⟨b'', hOuter, hTag⟩)
    · exact ⟨b, (openBrace_append_cons_iff hb).mpr (.inl ⟨rfl, rfl⟩), hTag⟩
    · exact ⟨b'' ++ '{' :: b, (openBrace_append_cons_iff hb).mpr (.inr ⟨b'', hOuter, rfl⟩),
        by simpa using hTag⟩

theorem Encloses.length_lt (h : Encloses before behind a k) : a.length < before.length := by
  obtain ⟨b, hOpen, -⟩ := h
  rw [hOpen.text, List.length_append, List.length_cons]
  omega

/-- The first conditional tag of the stack is that of the innermost conditional block. -/
theorem Opened.find?_eq_some_iff (h : Opened tags before behind) :
    (tags.filterMap id).find? (·.isConditional) = some k ↔
      InnermostConditional before behind k := by
  induction h with
  | none hNone =>
    constructor
    · intro hFind
      simp at hFind
    · rintro ⟨a, ⟨b, hOpen, -⟩, -⟩
      exact absurd hOpen (hNone a b)
  | @brace a b behind tag tags hTag hInside hAround ih =>
    by_cases hHere : ∃ k', tag = some k' ∧ k'.isConditional = true
    · obtain ⟨k', rfl, hCond⟩ := hHere
      have hInner : Encloses (a ++ '{' :: b) behind a k' :=
        (encloses_append_cons_iff hInside).mpr (.inl ⟨rfl, (hTag k').mp rfl⟩)
      rw [List.filterMap_cons_some (by rfl), List.find?_cons_of_pos hCond, Option.some.injEq]
      constructor
      · rintro rfl
        refine ⟨a, hInner, hCond, fun a' k'' hOther _ => ?_⟩
        rcases (encloses_append_cons_iff hInside).mp hOther with ⟨rfl, -⟩ | hOuter
        · exact Nat.le_refl _
        · exact Nat.le_of_lt hOuter.length_lt
      · rintro ⟨a', hEncloses, -, hLast⟩
        have hLength := hLast a k' hInner hCond
        rcases (encloses_append_cons_iff hInside).mp hEncloses with ⟨rfl, hLastKeyword⟩ | hOuter
        · exact Option.some.inj ((hTag k).mpr hLastKeyword)
        · exact absurd hOuter.length_lt (Nat.not_lt.mpr hLength)
    · -- the innermost brace does not count
      have hSame (a' : Text) (k' : Keyword) (hCond : k'.isConditional = true) :
          Encloses (a ++ '{' :: b) behind a' k' ↔ Encloses a ('{' :: (b ++ behind)) a' k' := by
        rw [encloses_append_cons_iff hInside]
        refine or_iff_right ?_
        rintro ⟨-, hLastKeyword⟩
        exact hHere ⟨k', (hTag k').mpr hLastKeyword, hCond⟩
      have hFind : ((tag :: tags).filterMap id).find? (·.isConditional) =
          (tags.filterMap id).find? (·.isConditional) := by
        cases tag with
        | none => rfl
        | some k' =>
          rw [List.filterMap_cons_some (by rfl), List.find?_cons_of_neg]
          exact fun hCond => hHere ⟨k', rfl, hCond⟩
      rw [hFind, ih]
      constructor
      · rintro ⟨a', hEncloses, hCond, hLast⟩
        exact ⟨a', (hSame a' k hCond).mpr hEncloses, hCond, fun a'' k'' hOther hCond' =>
          hLast a'' k'' ((hSame a'' k'' hCond').mp hOther) hCond'⟩
      · rintro ⟨a', hEncloses, hCond, hLast⟩
        exact ⟨a', (hSame a' k hCond).mp hEncloses, hCond, fun a'' k'' hOther hCond' =>
          hLast a'' k'' ((hSame a'' k'' hCond').mpr hOther) hCond'⟩

-- ---------------------------------------------------------------------------
-- The last keyword, and open parentheses
-- ---------------------------------------------------------------------------

theorem parenDepth_concat (t : Text) (c : Char) : parenDepth (t ++ [c]) =
    if c = '(' then parenDepth t + 1 else if c = ')' then parenDepth t - 1 else parenDepth t := by
  rw [parenDepth, List.foldl_append]
  rfl

/-- What one character more ends in, ends in that character. -/
theorem exists_of_concat_eq (h : t ++ [c] = x ++ z) (hz : z ≠ []) :
    ∃ w, t = x ++ w ∧ z = w ++ [c] := by
  obtain ⟨w, d, rfl⟩ := (List.eq_nil_or_concat z).resolve_left hz
  rw [List.concat_eq_append, ← List.append_assoc] at h
  obtain ⟨rfl, hd⟩ := List.append_inj' h rfl
  exact ⟨w, rfl, by rw [List.concat_eq_append, hd]⟩

theorem not_lastKeyword_nil : ¬ LastKeyword [] behind k := by
  rintro ⟨x, z, hText, hz, -⟩
  exact hz (List.append_eq_nil_iff.mp hText.symm).2

theorem lastKeyword_concat_of_begins {k' : Keyword}
    (h : k'.Begins before.getLast? (c :: behind)) :
    LastKeyword (before ++ [c]) behind k ↔ k' = k := by
  obtain ⟨d, r, hHere, hWord⟩ := h.exists_isWord
  obtain ⟨rfl, -⟩ := List.cons.inj hHere
  constructor
  · rintro ⟨x, z, hText, hz, hBegins, -, -, hLast⟩
    obtain ⟨w, rfl, rfl⟩ := exists_of_concat_eq hText hz
    have hLength := hLast (x ++ w) [c] k' rfl (List.cons_ne_nil _ _) h
    rw [List.length_append] at hLength
    obtain rfl : w = [] := List.length_eq_zero_iff.mp (by omega)
    rw [List.append_nil] at h
    exact h.unique hBegins
  · rintro rfl
    refine ⟨before, [c], rfl, List.cons_ne_nil _ _, h, ?_, fun u v hu => ?_, ?_⟩
    · exact fun hMem => Text.ne_of_class hWord (by decide) (List.mem_singleton.mp hMem).symm
    · have hMem : ';' ∈ [c] := by rw [hu]; simp
      exact absurd (List.mem_singleton.mp hMem).symm (Text.ne_of_class hWord (by decide))
    · intro x' z' _ hText hz _
      obtain ⟨w, rfl, -⟩ := exists_of_concat_eq hText hz
      rw [List.length_append]
      exact Nat.le_add_right _ _

theorem lastKeyword_concat_of_not (h : ∀ k, ¬ Keyword.Begins k before.getLast? (c :: behind)) :
    LastKeyword (before ++ [c]) behind k ↔
      LastKeyword before (c :: behind) k ∧ c ≠ '{' ∧ ¬ (c = ';' ∧ parenDepth before = 0) := by
  -- where a keyword begins, some of the text before the character stands behind that place
  have hEarlier {x w : Text} {k : Keyword} (hText : before = x ++ w)
      (hBegins : k.Begins x.getLast? (w ++ [c] ++ behind)) : w ≠ [] := by
    rintro rfl
    rw [List.append_nil] at hText
    exact h k (hText ▸ hBegins)
  have hAssoc (w : Text) : w ++ [c] ++ behind = w ++ c :: behind := List.append_assoc ..
  constructor
  · rintro ⟨x, z, hText, hz, hBegins, hBrace, hEnd, hLast⟩
    obtain ⟨w, hBefore, rfl⟩ := exists_of_concat_eq hText hz
    rw [List.mem_append, not_or, List.mem_singleton] at hBrace
    refine ⟨⟨x, w, hBefore, hEarlier hBefore hBegins, hAssoc w ▸ hBegins, hBrace.1, ?_, ?_⟩,
      Ne.symm hBrace.2, ?_⟩
    · exact fun u v hw => hEnd u (v ++ [c]) (by rw [hw, List.append_assoc, List.cons_append])
    · intro x' w' k' hBefore' hw' hBegins'
      exact hLast x' (w' ++ [c]) k' (by rw [hBefore', List.append_assoc]) (by simp)
        (by rwa [hAssoc])
    · rintro ⟨rfl, hDepth⟩
      exact hEnd w [] rfl (hBefore ▸ hDepth)
  · rintro ⟨⟨x, w, hBefore, hw, hBegins, hBrace, hEnd, hLast⟩, hc, hSemicolon⟩
    refine ⟨x, w ++ [c], by rw [hBefore, List.append_assoc], by simp, by rwa [hAssoc], ?_, ?_, ?_⟩
    · rw [List.mem_append, not_or, List.mem_singleton]
      exact ⟨hBrace, Ne.symm hc⟩
    · intro u v hText
      rcases List.eq_nil_or_concat v with rfl | ⟨v, d, rfl⟩
      · obtain ⟨rfl, hd⟩ := List.append_inj' hText rfl
        rw [← hBefore]
        exact fun hDepth => hSemicolon ⟨(List.cons.inj hd).1, hDepth⟩
      · rw [List.concat_eq_append, ← List.cons_append, ← List.append_assoc] at hText
        exact hEnd u v (List.append_inj' hText rfl).1
    · intro x' z' k' hText hz' hBegins'
      obtain ⟨w', hBefore', rfl⟩ := exists_of_concat_eq hText hz'
      exact hLast x' w' k' hBefore' (hEarlier hBefore' hBegins') (hAssoc w' ▸ hBegins')

-- ---------------------------------------------------------------------------
-- The scan
-- ---------------------------------------------------------------------------

/-- What the scan knows between two parts of a script is true. -/
structure Describes (s : Scope) (before behind : Text) : Prop where
  opened : Opened s.opened before behind
  pending : ∀ k, s.pending = some k ↔ LastKeyword before behind k
  depth : s.depth = parenDepth before

theorem describes_outermost (t : Text) : Describes .outermost [] t where
  opened := .none fun a b hOpen => by
    have hNil := hOpen.text
    simp at hNil
  pending k := by
    rw [iff_false_intro not_lastKeyword_nil]
    simp [Scope.outermost]
  depth := rfl

/-- One character of the script. -/
theorem Describes.step (h : Describes s before (c :: behind)) :
    Describes (s.step before.getLast? c behind) (before ++ [c]) behind := by
  obtain ⟨hOpened, hPending, hDepth⟩ := h
  have hPlain (ho : c ≠ '{') (hc : c ≠ '}') : Opened s.opened (before ++ [c]) behind :=
    Opened.append (v := [c]) hOpened (nested_nil.cons_of_ne ho hc)
  have hNoParen (ho : c ≠ '(') (hc : c ≠ ')') : s.depth = parenDepth (before ++ [c]) := by
    rw [parenDepth_concat, if_neg ho, if_neg hc, hDepth]
  unfold Scope.step
  split
  · next k hHere =>
    have hBegins := Keyword.here?_eq_some_iff.mp hHere
    obtain ⟨d, r, hText, hWord⟩ := hBegins.exists_isWord
    obtain ⟨rfl, -⟩ := List.cons.inj hText
    have hNe {d : Char} (hd : isWord d = false) : c ≠ d := Text.ne_of_class hWord hd
    constructor
    · exact hPlain (hNe (by decide)) (hNe (by decide))
    · intro k'
      rw [lastKeyword_concat_of_begins hBegins, Option.some.injEq]
    · exact hNoParen (hNe (by decide)) (hNe (by decide))
  · next hHere =>
    have hNone : ∀ k, ¬ Keyword.Begins k before.getLast? (c :: behind) := by
      intro k hBegins
      rw [Keyword.here?_eq_some_iff.mpr hBegins] at hHere
      simp at hHere
    have hKeep (hBrace : c ≠ '{') (hEnd : ¬ (c = ';' ∧ parenDepth before = 0)) (k : Keyword) :
        s.pending = some k ↔ LastKeyword (before ++ [c]) behind k := by
      rw [lastKeyword_concat_of_not hNone, hPending, and_iff_left ⟨hBrace, hEnd⟩]
    have hForget (hHere : c = '{' ∨ c = ';' ∧ parenDepth before = 0) (k : Keyword) :
        (none : Option Keyword) = some k ↔ LastKeyword (before ++ [c]) behind k := by
      rw [lastKeyword_concat_of_not hNone]
      constructor
      · intro h
        simp at h
      · rintro ⟨-, hBrace, hEnd⟩
        exact absurd hHere (not_or.mpr ⟨hBrace, hEnd⟩)
    unfold Scope.behind
    split
    · next hc =>
      subst hc
      exact ⟨hOpened.open hPending, hForget (.inl rfl), hNoParen (by decide) (by decide)⟩
    split
    · next hc =>
      subst hc
      exact ⟨hOpened.close, hKeep (by decide) (by simp), hNoParen (by decide) (by decide)⟩
    split
    · next hc =>
      subst hc
      refine ⟨hPlain (by decide) (by decide), hKeep (by decide) (by simp), ?_⟩
      rw [parenDepth_concat, if_pos rfl, hDepth]
    split
    · next hc =>
      subst hc
      refine ⟨hPlain (by decide) (by decide), hKeep (by decide) (by simp), ?_⟩
      rw [parenDepth_concat, if_neg (by decide), if_pos rfl, hDepth]
    split
    · next hBrace hClose hParen hParen' hEnd =>
      exact ⟨hPlain hBrace hClose, hForget (.inr (hDepth ▸ hEnd)), hNoParen hParen hParen'⟩
    · next hBrace hClose hParen hParen' hEnd =>
      exact ⟨hPlain hBrace hClose, hKeep hBrace (hDepth ▸ hEnd), hNoParen hParen hParen'⟩

/-- Any part of the script. -/
theorem Describes.read (h : Describes s before (v ++ behind)) :
    Describes (s.read v.length before.getLast? (v ++ behind)) (before ++ v) behind := by
  induction v generalizing s before with
  | nil => simpa [Scope.read] using h
  | cons c v ih =>
    have hStep := h.step
    have hRest := ih hStep
    rw [List.getLast?_concat, List.append_assoc] at hRest
    exact hRest

theorem Describes.conditional?_eq_some_iff (h : Describes s before behind) :
    s.conditional? = some k ↔ InnermostConditional before behind k :=
  h.opened.find?_eq_some_iff

end Script

end SketchRepair
