import SketchRepair.Document.Element
import SketchRepair.Proofs.Descending
import SketchRepair.Proofs.Document.Dissection
import SketchRepair.Proofs.Script.Sewing
import SketchRepair.Proofs.Text.Splice

/-!
# SketchRepair — mechanical repair balances a script

What the repair adds is a `)` here and there, and comments in the place of stray ones.
Neither can become part of a closing tag or of a word that marks shader code, and
nothing else about the script changes: what matched each other still does.

Main results:

* `mendParens_closes` — the issues that are found in a script, all mended;
* `mendParens_spec` — behind all repairs the script is balanced, and differs by what
  the repairs add and by nothing else;
* `Mended.isContent`, `Mended.isShader_eq_false` — that does no harm;
* `mendAndCount_matches` — **what becomes of every parenthesis**;
* `mendAndCount_closes` — **where parentheses are put in**;
* `length_mendParens` — every issue that is mended makes the script longer.
-/

namespace SketchRepair

namespace Script

-- ---------------------------------------------------------------------------
-- What the repairs add
-- ---------------------------------------------------------------------------

/-- The second text is the first one with `)` put in and stray ones replaced. -/
inductive Mended : Text → Text → Prop where
  | nil : Mended [] []
  | keep {t u : Text} (c : Char) (hRest : Mended t u) : Mended (c :: t) (c :: u)
  | close {t u : Text} (hRest : Mended t u) : Mended t (')' :: u)
  | mark {t u : Text} (hRest : Mended t u) : Mended (')' :: t) (strayMarker ++ u)

theorem Mended.refl : ∀ t : Text, Mended t t
  | [] => .nil
  | c :: t => .keep c (Mended.refl t)

/-- One `)` may be put in anywhere. -/
theorem mended_insert (b : Text) : ∀ a : Text, Mended (a ++ b) (a ++ ')' :: b)
  | [] => .close (.refl b)
  | c :: a => .keep c (mended_insert b a)

theorem mended_stitches (w : List Stitch) : Mended (oldText w) (newText w) := by
  induction w with
  | nil => exact .nil
  | cons x w ih =>
    rw [oldText_cons, newText_cons]
    cases x with
    | kept c => exact .keep c ih
    | closing => exact .close ih
    | marker => exact .mark ih

/-- The issues of a script are mended from the last to the first. -/
theorem mendParens_eq_foldr {source : Text} (hShader : isShader source = false) :
    mendParens source (parenIssues source) =
      (parenIssues source).foldr (fun issue s => mendParen s issue) source := by
  have hSort : ((parenIssues source).mergeSort fun a b => b.index ≤ a.index) =
      (parenIssues source).reverse := by
    refine mergeSort_eq_reverse (fun x => x.index) ?_ (List.Perm.refl _)
      (parenIssues_unmatched hShader).ascending.2
    intro x y
    rw [decide_eq_true_eq]
  rw [mendParens, hSort, List.foldl_reverse]

/-- The issues of a script, all mended, and where those left open are closed. -/
theorem mendParens_closes {source : Text} (hShader : isShader source = false) :
    ∃ w, Sound w ∧ oldText w = source ∧ newText w = mendParens source (parenIssues source) ∧
      w.countP Stitch.isRepair = (parenIssues source).length ∧
      ∀ k : Int, ⟨.missingClose, k⟩ ∈ parenIssues source → ∃ n : Nat, k = n ∧ Closes w n := by
  obtain ⟨w, hSound, hOld, hCount, hCloses, hFold⟩ :=
    (parenIssues_unmatched hShader).exists_stitches [] rfl
  simp only [Nat.zero_add] at hCloses
  rw [List.nil_append, List.nil_append] at hFold
  exact ⟨w, hSound, hOld, by rw [mendParens_eq_foldr hShader, hFold], hCount, hCloses⟩

/-- The issues of a script, all mended. -/
theorem mendParens_stitches {source : Text} (hShader : isShader source = false) :
    ∃ w, Sound w ∧ oldText w = source ∧ newText w = mendParens source (parenIssues source) ∧
      w.countP Stitch.isRepair = (parenIssues source).length := by
  obtain ⟨w, hSound, hOld, hNew, hCount, -⟩ := mendParens_closes hShader
  exact ⟨w, hSound, hOld, hNew, hCount⟩

/-- The issues of a script, mended, leave it balanced, with a `)` here and there and
comments for stray ones. -/
theorem mendParens_spec {source : Text} (hShader : isShader source = false) :
    Balanced (mendParens source (parenIssues source)) ∧
      Mended source (mendParens source (parenIssues source)) := by
  obtain ⟨w, hSound, hOld, hNew, -⟩ := mendParens_stitches hShader
  have hMended := mended_stitches w
  rw [hOld, hNew] at hMended
  rw [← hNew] at hMended ⊢
  exact ⟨hSound.balanced, hMended⟩

-- ---------------------------------------------------------------------------
-- What the repairs cannot do
-- ---------------------------------------------------------------------------

variable {t u : Text}

/-- The texts that repairs put into a script. -/
def repairTexts : List Text := [[')'], strayMarker]

theorem Mended.spliced (h : Mended t u) : Text.Spliced repairTexts t u := by
  induction h with
  | nil => exact .nil
  | keep c _ ih => exact .keep c ih
  | @close t u _ ih =>
    have hClose : Text.Spliced repairTexts ([] ++ t) ([')'] ++ u) := .put [] (by decide) ih
    exact hClose
  | mark _ ih => exact .put [')'] (by decide) ih

/-- A repaired script is no shader code if it was none. -/
theorem Mended.isShader_eq_false (h : Mended t u) (hShader : isShader t = false) :
    isShader u = false := by
  rw [Bool.eq_false_iff] at hShader ⊢
  intro hHas
  obtain ⟨p, hp, hInfix⟩ := Text.hasAny_iff.mp hHas
  have hClear : ∀ p ∈ shaderMarkers, ∀ new ∈ repairTexts, Text.Clear p new := by decide
  exact hShader (Text.hasAny_iff.mpr ⟨p, hp, h.spliced.infix_of (hClear p hp) hInfix⟩)

/-- **What becomes of parentheses.** A script that is no shader code is sewn together
anew, and is no shader code then either. Its parentheses are balanced: those that matched
each other still do, each one left open is closed by one that is put in, and each stray
one gives way to the marker. Everything else is kept, and the fixes counted are the
issues that were found. -/
theorem mendAndCount_matches {source : Text} (hShader : isShader source = false) :
    ∃ w, Sound w ∧ oldText w = source ∧ isShader (newText w) = false ∧
      w.countP Stitch.isRepair = (parenIssues source).length ∧
      mendAndCount source (parenIssues source) = (newText w, (parenIssues source).length) := by
  obtain ⟨w, hSound, hOld, hNew, hCount⟩ := mendParens_stitches hShader
  have hMended := mended_stitches w
  rw [hOld] at hMended
  refine ⟨w, hSound, hOld, hMended.isShader_eq_false hShader, hCount, ?_⟩
  rw [mendAndCount, hNew]

/-- A script with a stray parenthesis and two calls that are left open, one of them with
a call in it that is closed. -/
def strayThenOpen : Text := "a) f(g(1);\nh(2;".toList

theorem mendAndCount_matches_strayThenOpen : isShader strayThenOpen = false ∧
    ∃ w, Sound w ∧ oldText w = strayThenOpen ∧ isShader (newText w) = false ∧
      w.countP Stitch.isRepair = (parenIssues strayThenOpen).length ∧
      mendAndCount strayThenOpen (parenIssues strayThenOpen) =
        (newText w, (parenIssues strayThenOpen).length) := by
  have hShader : isShader strayThenOpen = false := by decide
  exact ⟨hShader, mendAndCount_matches hShader⟩

/-- **Where parentheses are put in.** A script that is no shader code is sewn together
anew, and each of its parentheses that is reported as left open is closed by one that is
put in where its call ends. Between the two no statement ends and no block begins or ends
outside of further parentheses; behind the one put in there are only others of its kind
and blanks, up to where a statement ends or the script does; and it follows no blank. -/
theorem mendAndCount_closes {source : Text} (hShader : isShader source = false) :
    ∃ w, Sound w ∧ oldText w = source ∧
      mendAndCount source (parenIssues source) = (newText w, (parenIssues source).length) ∧
      ∀ k : Int, ⟨.missingClose, k⟩ ∈ parenIssues source → ∃ n : Nat, k = n ∧ Closes w n := by
  obtain ⟨w, hSound, hOld, hNew, -, hCloses⟩ := mendParens_closes hShader
  refine ⟨w, hSound, hOld, ?_, hCloses⟩
  rw [mendAndCount, hNew]

/-- Two calls left open that end at the same place, behind a stray parenthesis and before
one that is open up to the end. -/
def openWithinOpen : Text := ") f(a, g(b ;\nh(x;y)( \n".toList

theorem mendAndCount_closes_openWithinOpen : isShader openWithinOpen = false ∧
    ∃ w, Sound w ∧ oldText w = openWithinOpen ∧
      newText w = "/* removed extra paren */ f(a, g(b)) ;\nh(x;y)() \n".toList ∧
      Closes w 3 ∧ Closes w 8 ∧ Closes w 19 := by
  have hShader : isShader openWithinOpen = false := by decide
  have hIssues : parenIssues openWithinOpen =
      [⟨.extraClose, 0⟩, ⟨.missingClose, 3⟩, ⟨.missingClose, 8⟩, ⟨.missingClose, 19⟩] := by decide
  obtain ⟨w, hSound, hOld, hMended, hCloses⟩ := mendAndCount_closes hShader
  have hNew : newText w = "/* removed extra paren */ f(a, g(b)) ;\nh(x;y)() \n".toList := by
    rw [← (Prod.mk.inj hMended).1, mendParens_eq_foldr hShader, hIssues]
    decide
  have hAt {n : Nat} (hMem : ⟨.missingClose, (n : Int)⟩ ∈ parenIssues openWithinOpen) :
      Closes w n := by
    obtain ⟨k, hk, hClosed⟩ := hCloses n hMem
    rwa [Int.ofNat_inj.mp hk]
  refine ⟨hShader, w, hSound, hOld, hNew, hAt ?_, hAt ?_, hAt ?_⟩ <;> simp [hIssues]

/-- A repaired script is not blank if it was not. -/
theorem Mended.allBlank_eq_false (h : Mended t u) (hSolid : Text.allBlank t = false) :
    Text.allBlank u = false := by
  have hTexts : ∀ new ∈ repairTexts, Text.allBlank new = false := by decide
  exact h.spliced.allBlank_eq_false hTexts hSolid

/-- A repaired script holds no closing tag if it held none. -/
theorem Mended.isContent (h : Mended t u) {tag : Document.Tag}
    (hContent : Document.IsContent tag t) : Document.IsContent tag u := by
  intro hInfix
  have hClear : ∀ new ∈ repairTexts.map (·.map fold), Text.Clear tag.closer new := by
    cases tag <;> decide
  exact hContent (h.spliced.map_fold.infix_of hClear hInfix)

-- ---------------------------------------------------------------------------
-- Length
-- ---------------------------------------------------------------------------

theorem length_mendParen (source : Text) (issue : ParenIssue) :
    source.length + 1 ≤ (mendParen source issue).length := by
  have hMarker : 2 ≤ strayMarker.length := by decide
  unfold mendParen
  cases issue.fault with
  | missingClose =>
    simp only [Offset.before, Offset.beyond, Offset.place, List.length_append, List.length_take,
      List.length_drop, List.length_singleton]
    omega
  | extraClose =>
    simp only [Offset.before, Offset.beyond, Offset.place, List.length_append, List.length_take,
      List.length_drop]
    split <;> split <;> omega

/-- Every issue that is mended makes the script longer. -/
theorem length_mendParens (source : Text) (issues : List ParenIssue) :
    source.length + issues.length ≤ (mendParens source issues).length := by
  have hFold (js : List ParenIssue) : ∀ u : Text,
      u.length + js.length ≤ (js.foldl mendParen u).length := by
    induction js with
    | nil => exact fun u => Nat.le_refl _
    | cons j js ih =>
      intro u
      have hFirst := length_mendParen u j
      have hRest := ih (mendParen u j)
      rw [List.foldl_cons, List.length_cons]
      omega
  have hSorted : (issues.mergeSort fun a b => decide (b.index ≤ a.index)).length = issues.length :=
    List.length_mergeSort issues
  rw [mendParens, ← hSorted]
  exact hFold _ _

end Script

end SketchRepair
