import Mathlib.Data.List.Chain
import SketchRepair.Proofs.Json.Grammar

/-!
# SketchRepair — line feeds in a JSON text

No line feed stands within a text, a number or a word. So behind every line feed of a JSON
text another blank stands, or something begins that such a text is made of. A piece of some
document in which a line begins in any other way is no JSON, whatever the rest of it may be.

* `Broken` — line feeds, and what stands behind them;
* `Written.broken` — whatever is written is broken into lines so;
* `not_infix_of_parse` — no line of a JSON text begins in another way.
-/

namespace SketchRepair

namespace Json

variable {t u used s body : Text} {v : Json} {c : Char}

/-- A character of a number or a word, a quote, a bracket, a brace, or what stands between two
values. -/
def isTokenStart (c : Char) : Bool :=
  isScalarChar c || ['"', '[', ']', '\x7b', '\x7d', ',', ':'].contains c

/-- A character that may stand behind a line feed. -/
def beginsLine (c : Char) : Bool := isSpace c || isTokenStart c

/-- Lines begin with blanks or tokens, the first one included. -/
def Broken (t : Text) : Prop := List.IsChain (fun c d => c = '\n' → beginsLine d = true) ('\n' :: t)

-- ---------------------------------------------------------------------------
-- Pieces that are broken so
-- ---------------------------------------------------------------------------

theorem Broken.append (h : Broken t) (hu : Broken u) : Broken (t ++ u) := by
  obtain ⟨hFirst, hChain⟩ := List.isChain_cons.mp hu
  show List.IsChain _ (('\n' :: t) ++ u)
  exact List.isChain_append.mpr ⟨h, hChain, fun _ _ d hd _ => hFirst d hd rfl⟩

/-- Blanks and tokens may be in lines of their own. -/
theorem broken_of_forall (h : ∀ c ∈ t, beginsLine c = true) : Broken t := by
  induction t with
  | nil => exact List.isChain_singleton _
  | cons c t ih =>
    obtain ⟨hc, ht⟩ := List.forall_mem_cons.mp h
    exact Broken.append (t := [c]) (List.isChain_pair.mpr fun _ => hc) (ih ht)

theorem broken_singleton (h : isTokenStart c = true) : Broken [c] := by
  refine broken_of_forall fun d hd => ?_
  rw [List.mem_singleton.mp hd, beginsLine, h, Bool.or_true]

/-- A token is in one line. -/
theorem broken_cons_of_not_mem (h : isTokenStart c = true) (hLine : '\n' ∉ t) :
    Broken (c :: t) := by
  have hTail : List.IsChain (fun c d => c = '\n' → beginsLine d = true) t := by
    rw [List.isChain_iff_forall_rel_of_append_cons_cons]
    rintro a b before behind rfl rfl
    simp at hLine
  refine List.isChain_cons.mpr ⟨?_, List.isChain_cons.mpr ⟨?_, hTail⟩⟩
  · intro d hd _
    rw [List.head?_cons, Option.mem_some_iff] at hd
    rw [← hd, beginsLine, h, Bool.or_true]
  · rintro d - rfl
    exact absurd h (by decide)

theorem Spaces.broken (h : Spaces t) : Broken t := by
  refine broken_of_forall fun c hc => ?_
  rw [beginsLine, h c hc, Bool.true_or]

theorem IsScalar.broken (h : IsScalar v used) : Broken used := by
  refine broken_of_forall fun c hc => ?_
  rw [beginsLine, isTokenStart, h.chars c hc, Bool.true_or, Bool.or_true]

theorem IsText.not_mem (h : IsText s body) : '\n' ∉ body := by
  have hEscaped {c e : Char} (hc : escaped? c = some e) : '\n' ≠ c := by
    rintro rfl
    rw [show escaped? '\n' = none from rfl] at hc
    simp at hc
  induction h with
  | close => decide
  | @plain c s body hQuote hEscape hVisible hRest ih =>
    have hc : '\n' ≠ c := by
      rintro rfl
      exact absurd hVisible (by decide)
    simp [hc, ih]
  | escape hc hRest ih => simp [hEscaped hc, ih]
  | code hHex hAlone hRest ih => simp [hHex.unbroken, ih]
  | pair hHex hHigh hLower hLow hRest ih => simp [hHex.unbroken, hLower.unbroken, ih]

theorem IsText.broken (h : IsText s body) : Broken ('"' :: body) :=
  broken_cons_of_not_mem (by decide) h.not_mem

theorem IsLabel.broken {name lead : Text} (h : IsLabel name lead) : Broken lead := by
  obtain ⟨body, gap, gap', hName, hGap, hGap', rfl⟩ := h
  have hColon : Broken (':' :: gap') := (broken_singleton (by decide)).append hGap'.broken
  exact hName.broken.append (hGap.broken.append hColon)

-- ---------------------------------------------------------------------------
-- JSON texts
-- ---------------------------------------------------------------------------

theorem Written.broken {part : Part} (h : Written part used) : Broken used := by
  -- brackets, braces and commas stand between what is written inside
  have hToken {c : Char} {t : Text} (hc : isTokenStart c = true) (ht : Broken t) :
      Broken (c :: t) := (broken_singleton hc).append ht
  induction h with
  | text hText => exact hText.broken
  | scalar hScalar => exact hScalar.broken
  | noFields hGap | noItems hGap =>
    exact hToken (by decide) (hGap.broken.append (broken_singleton (by decide)))
  | object hGap hInside ih | array hGap hInside ih =>
    exact hToken (by decide) (hGap.broken.append ih)
  | lastItem hValue hGap ih =>
    exact ih.append (hGap.broken.append (broken_singleton (by decide)))
  | item hValue hGap hGap' hMore ih ihMore =>
    exact ih.append (hGap.broken.append (hToken (by decide) (hGap'.broken.append ihMore)))
  | lastField hLabel hValue hGap ih =>
    exact hLabel.broken.append (ih.append (hGap.broken.append (broken_singleton (by decide))))
  | field hLabel hValue hGap hGap' hMore ih ihMore =>
    exact hLabel.broken.append
      (ih.append (hGap.broken.append (hToken (by decide) (hGap'.broken.append ihMore))))

theorem broken_of_parse (h : parse t = .ok v) : Broken t := by
  obtain ⟨before, used, behind, rfl, hBefore, hBehind, hWritten⟩ := parse_eq_ok_iff.mp h
  exact hBefore.broken.append (hWritten.broken.append hBehind.broken)

/-- **Every line of a JSON text begins with a blank or a token.** -/
theorem not_infix_of_parse (h : parse t = .ok v) (hc : beginsLine c = false) :
    ¬ ['\n', c] <:+: t := by
  rintro ⟨before, behind, rfl⟩
  have hAll := List.isChain_iff_forall_rel_of_append_cons_cons.mp (broken_of_parse h)
  have hHere : beginsLine c = true :=
    @hAll '\n' c ('\n' :: before) behind (by simp) rfl
  exact Bool.false_ne_true (hc.symm.trans hHere)

end Json

end SketchRepair
