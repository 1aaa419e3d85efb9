import Mathlib.Algebra.Ring.Nat
import Mathlib.Data.List.Forall2
import SketchRepair.Proofs.Repair.UndefinedVariable
import SketchRepair.Proofs.Script.Name

/-!
# SketchRepair — declaring undefined variables without help

When no answer is to be had, every script that mentions an undefined name gets a default
declaration of it. The names have their turns one after the other, each on the scripts
that the turns before it have left, and a declaration is a text with words of its own:
`let`, `uniforms`, `value`, `x`, `y`, and the words of its comment. So a script comes to
mention a name that it did not mention, once it holds a declaration that brings the name
along, and the name is declared there too. No other name is: the name that a declaration
is for was mentioned before, and so was every word that stands in it.

* `mentions_text_append` — what a script mentions behind a declaration;
* `mentions_declared` — and behind many of them;
* `defineFrom_of_unaided`, `defineAll_of_unaided` — the turn of one name, and all turns;
* `isSettled_settledPiece` — which names are declared in a script;
* `undefinedVariable_declares` — the pass on a page.
-/

namespace SketchRepair

namespace Pass

open Document (Piece IsTail assemble solid inlineScripts)
open Page (UndefinedVariable IsName)
open Script (mentions)

/-- A default declaration that goes before a script. -/
structure Declaration where
  name : Text
  comment : Text
  deriving DecidableEq, Repr

namespace Declaration

/-- The declaration as a line of its own. -/
def text (d : Declaration) : Text := defaultDeclaration d.name d.comment ++ ['\n']

/-- Does the declaration mention a word, whatever name it is for? -/
def brings (d : Declaration) (w : Text) : Bool := mentions w (defaultDeclaration [] d.comment)

end Declaration

/-- The comment on a variable that the script declares under a condition. -/
def scopeComment : Text := "Added at top level to fix variable scoping issue".toList

/-- The comment on any other variable. -/
def fallbackComment : Text := "Added global declaration as fallback fix".toList

/-- The declaration that goes before a script. -/
def declarationFor (name script : Text) : Declaration :=
  ⟨name, if (Script.conditionalDeclaration? name script).isSome then scopeComment
    else fallbackComment⟩

/-- The script with a declaration before it, if it mentions the name. -/
def declaredIn (name script : Text) : Text :=
  if mentions name script then (declarationFor name script).text ++ script else script

/-- The declarations that a script gets for names that have their turns one after the
other. -/
def declarationsIn : (names : List Text) → (script : Text) → List Declaration
  | [], _ => []
  | name :: names, script =>
    if mentions name script then
      declarationFor name script :: declarationsIn names (declaredIn name script)
    else declarationsIn names script

/-- A script with declarations before it, the last one first. -/
def declared (ds : List Declaration) (script : Text) : Text :=
  ds.reverse.flatMap Declaration.text ++ script

variable {team : Collaborators} {v : UndefinedVariable} {s : Progress} {tail : Text}
  {name script w : Text} {names : List Text} {ds : List Declaration} {d : Declaration}

theorem declaredIn_of_mentions (h : mentions name script = true) :
    declaredIn name script = (declarationFor name script).text ++ script := if_pos h

theorem declaredIn_of_not (h : ¬ mentions name script = true) :
    declaredIn name script = script := if_neg h

theorem declarationsIn_of_mentions (h : mentions name script = true) (names : List Text) :
    declarationsIn (name :: names) script =
      declarationFor name script :: declarationsIn names (declaredIn name script) := by
  rw [declarationsIn, if_pos h]

theorem declarationsIn_of_not (h : ¬ mentions name script = true) (names : List Text) :
    declarationsIn (name :: names) script = declarationsIn names script := by
  rw [declarationsIn, if_neg h]

theorem declared_nil (script : Text) : declared [] script = script := rfl

theorem declared_cons (d : Declaration) (ds : List Declaration) (script : Text) :
    declared (d :: ds) script = declared ds (d.text ++ script) := by
  simp [declared]

-- ---------------------------------------------------------------------------
-- What declarations mention
-- ---------------------------------------------------------------------------

/-- A declaration mentions what it brings along, and what its name mentions. -/
theorem mentions_defaultDeclaration (hWord : IsName w) (name comment : Text) :
    mentions w (defaultDeclaration name comment) = true ↔
      mentions w (defaultDeclaration [] comment) = true ∨ mentions w name = true := by
  have hSpace : ' ' ∉ w := hWord.not_mem (by decide)
  have hParts (n : Text) : mentions w (defaultDeclaration n comment) = true ↔
      mentions w "let".toList = true ∨ mentions w n = true ∨ mentions w
        ("= \x7b uniforms: \x7b value: \x7b x: 0, y: 0 \x7d \x7d \x7d; // ".toList ++ comment) =
          true := by
    have hText : defaultDeclaration n comment = "let".toList ++ ' ' :: (n ++ ' ' ::
        ("= \x7b uniforms: \x7b value: \x7b x: 0, y: 0 \x7d \x7d \x7d; // ".toList ++
          comment)) := by
      unfold defaultDeclaration
      rw [List.append_assoc, List.append_assoc]
      rfl
    rw [hText, Script.mentions_append_cons hWord.nonempty (by decide) hSpace,
      Script.mentions_append_cons hWord.nonempty (by decide) hSpace]
  have hNothing : ¬ mentions w [] = true := by
    intro h
    exact hWord.nonempty (List.infix_nil.mp (Script.infix_of_mentions hWord.nonempty h))
  rw [hParts name, hParts []]
  tauto

/-- Behind a declaration a script mentions what it mentioned, what the name mentions, and
what the declaration brings along. -/
theorem mentions_text_append (hWord : IsName w) (d : Declaration) (script : Text) :
    mentions w (d.text ++ script) = true ↔
      d.brings w = true ∨ mentions w d.name = true ∨ mentions w script = true := by
  have hBreak : '\n' ∉ w := hWord.not_mem (by decide)
  have hText : d.text ++ script = defaultDeclaration d.name d.comment ++ '\n' :: script := by
    simp [Declaration.text]
  rw [hText, Script.mentions_append_cons hWord.nonempty (by decide) hBreak,
    mentions_defaultDeclaration hWord, Declaration.brings, or_assoc]

/-- The name that is declared makes no difference, since the script mentions it. -/
theorem mentions_declaredIn (hWord : IsName w) (h : mentions name script = true) :
    mentions w (declaredIn name script) = true ↔
      (declarationFor name script).brings w = true ∨ mentions w script = true := by
  rw [declaredIn_of_mentions h, mentions_text_append hWord]
  constructor
  · rintro (hBrings | hName | hScript)
    · exact .inl hBrings
    · exact .inr (Script.mentions_trans hWord.nonempty hName h)
    · exact .inr hScript
  · rintro (hBrings | hScript)
    · exact .inl hBrings
    · exact .inr (.inr hScript)

/-- Behind its declarations a script mentions what it mentioned, and what they bring
along. -/
theorem mentions_declared (hWord : IsName w) (names : List Text) : ∀ script : Text,
    mentions w (declared (declarationsIn names script) script) = true ↔
      mentions w script = true ∨ ∃ d ∈ declarationsIn names script, d.brings w = true := by
  induction names with
  | nil =>
    intro script
    simp [declarationsIn, declared_nil]
  | cons name names ih =>
    intro script
    by_cases hMentions : mentions name script = true
    · have hLater := ih (declaredIn name script)
      rw [mentions_declaredIn hWord hMentions] at hLater
      rw [declarationsIn_of_mentions hMentions, declared_cons,
        ← declaredIn_of_mentions hMentions, hLater, List.exists_mem_cons_iff]
      tauto
    · rw [declarationsIn_of_not hMentions]
      exact ih script

example : (declarationFor "foo".toList "foo();".toList).brings "x".toList = true ∧
    (declarationFor "foo".toList "foo();".toList).brings "foo".toList = false := by
  decide +kernel

/-- A blank script mentions no name. -/
theorem not_mentions_of_allBlank (hWord : IsName w) (hBlank : Text.allBlank script = true) :
    ¬ mentions w script = true := by
  intro h
  obtain ⟨c, w', rfl⟩ := List.exists_cons_of_ne_nil hWord.nonempty
  have hMem : c ∈ script :=
    (Script.infix_of_mentions hWord.nonempty h).subset (List.mem_cons_self ..)
  have hSolid : isBlank c = false :=
    Page.isBlank_eq_false_of_isNameChar (hWord.chars c (List.mem_cons_self ..))
  exact Bool.false_ne_true (hSolid.symm.trans (List.all_eq_true.mp hBlank c hMem))

-- ---------------------------------------------------------------------------
-- The turn of one name
-- ---------------------------------------------------------------------------

theorem defineIn_of_unaided (hTeam : team.IsUnaided) (v : UndefinedVariable) (script : Text)
    (s : Progress) : ∃ q, defineIn team v script s =
      (.ok ((declarationFor v.name script).text ++ script, 1), q) ∧ q.endless = s.endless := by
  unfold defineIn
  cases hScope : Script.conditionalDeclaration? v.name script with
  | some declaration =>
    refine ⟨s, ?_, rfl⟩
    rw [declarationFor, hScope]
    rfl
  | none =>
    obtain ⟨q, hAsk, hLasts⟩ := Run.ask_of_unaided hTeam undefinedVariableName
      (Prompt.UndefinedContext.request ⟨script, v.name, v.message⟩) s
    refine ⟨q, Run.bind_eq_of_ok hAsk ?_, hLasts⟩
    rw [declarationFor, hScope]
    rfl

theorem defineInElement_of_unaided (hTeam : team.IsUnaided) (v : UndefinedVariable)
    (e : Document.Element) (page : Text) (s : Progress) :
    ∃ q, defineInElement team v e page s =
      (.ok (if mentions v.name e.content then e.replaceContent (declaredIn v.name e.content) page
        else page, (mentions v.name e.content).toNat), q) ∧ q.endless = s.endless := by
  unfold defineInElement
  by_cases hMentions : mentions v.name e.content = true
  · obtain ⟨q, hDefine, hLasts⟩ := defineIn_of_unaided hTeam v e.content s
    rw [if_pos hMentions, if_pos hMentions, declaredIn_of_mentions hMentions, hMentions]
    exact ⟨_, Run.bind_eq_of_ok hDefine rfl, hLasts⟩
  · rw [if_neg hMentions, if_neg hMentions, Bool.eq_false_iff.mpr hMentions]
    exact ⟨s, rfl, rfl⟩

/-- An element with its script declared a name. -/
def declaredPiece (name : Text) (p : Piece) : Piece :=
  { p with content := declaredIn name p.content }

theorem allBlank_declaredIn (hSolid : Text.allBlank script = false) :
    Text.allBlank (declaredIn name script) = false := by
  by_cases hMentions : mentions name script = true
  · rw [declaredIn_of_mentions hMentions]
    rfl
  · rwa [declaredIn_of_not hMentions]

theorem declaredPiece_isElement (hName : IsName name) {p : Piece} (hPiece : p.IsElement .script) :
    (declaredPiece name p).IsElement .script := by
  refine ⟨hPiece.gap, hPiece.opening, ?_, hPiece.closing⟩
  show Document.IsContent .script (declaredIn name p.content)
  by_cases hMentions : mentions name p.content = true
  · have hComment : '<' ∉ (declarationFor name p.content).comment := by
      unfold declarationFor
      dsimp only
      split <;> decide
    rw [declaredIn_of_mentions hMentions]
    exact isContent_declareBefore (hName.not_mem (by decide)) hComment hPiece.content
  · rw [declaredIn_of_not hMentions]
    exact hPiece.content

/-- The turn of a name goes through the pieces of a page: the scripts of `done` have been
visited, those of `todo` are ahead. It ends behind the last one. -/
theorem defineFrom_of_unaided (hTeam : team.IsUnaided) (hName : IsName v.name)
    (hTail : IsTail .script tail) (todo : List Piece) :
    ∀ (done : List Piece) (s : Progress), (∀ p ∈ done ++ todo, p.IsElement .script) →
      ∃ q, defineFrom team v (solid done) (assemble (done ++ todo) tail) s =
        some (.ok (assemble (done ++ todo.map (declaredPiece v.name)) tail,
          todo.countP fun p => mentions v.name p.content), q) ∧ q.endless = s.endless := by
  induction todo with
  | nil =>
    intro done s hPieces
    have hEnd : (inlineScripts (assemble (done ++ []) tail))[solid done]? = none := by
      rw [List.append_nil] at hPieces ⊢
      rw [List.getElem?_eq_none_iff, inlineScripts, Document.inhabited, Document.elements,
        Document.dissect_assemble hPieces hTail, Document.length_filter_locate]
    exact ⟨s, defineFrom_of_end hEnd, rfl⟩
  | cons p todo ih =>
    intro done s hPieces
    have hSplit (q : Piece) (qs : List Piece) : done ++ q :: qs = done ++ [q] ++ qs := by simp
    by_cases hBlank : Text.allBlank p.content = true
    · -- a blank script is not visited
      have hDone : solid (done ++ [p]) = solid done := by simp [solid, hBlank]
      have hSilent := not_mentions_of_allBlank hName hBlank
      have hSame : declaredPiece v.name p = p := by rw [declaredPiece, declaredIn_of_not hSilent]
      obtain ⟨q, hLater, hLasts⟩ := ih (done ++ [p]) s (by rwa [← hSplit])
      refine ⟨q, ?_, hLasts⟩
      rw [List.map_cons, hSame, hSplit p todo, hSplit p (todo.map _), ← hDone, hLater,
        List.countP_cons, if_neg hSilent, Nat.add_zero]
    · rw [Bool.not_eq_true] at hBlank
      obtain ⟨e, hScript, hContent, hReplace⟩ :=
        Document.exists_script_of_piece hPieces hTail hBlank
      obtain ⟨q, hVisit, hVisitLasts⟩ := defineInElement_of_unaided hTeam v e
        (assemble (done ++ p :: todo) tail) s
      -- the page that the visit leaves
      have hLeft : (if mentions v.name e.content then e.replaceContent
          (declaredIn v.name e.content) (assemble (done ++ p :: todo) tail)
            else assemble (done ++ p :: todo) tail) =
          assemble (done ++ [declaredPiece v.name p] ++ todo) tail := by
        rw [hContent, hReplace, ← hSplit]
        split
        · rfl
        · next hSilent => rw [declaredPiece, declaredIn_of_not hSilent]
      have hDone : solid (done ++ [declaredPiece v.name p]) = solid done + 1 := by
        have hSolid : Text.allBlank (declaredPiece v.name p).content = false :=
          allBlank_declaredIn hBlank
        simp [solid, hSolid]
      have hNew : ∀ r ∈ done ++ [declaredPiece v.name p] ++ todo, r.IsElement .script := by
        intro r hr
        rw [← hSplit] at hr
        rcases List.mem_append.mp hr with hBefore | hr
        · exact hPieces r (List.mem_append_left _ hBefore)
        · rcases List.mem_cons.mp hr with rfl | hBehind
          · exact declaredPiece_isElement hName (hPieces p (by simp))
          · exact hPieces r (List.mem_append_right _ (List.mem_cons_of_mem _ hBehind))
      obtain ⟨q', hLater, hLasts⟩ := ih (done ++ [declaredPiece v.name p]) q hNew
      rw [hDone] at hLater
      rw [hLeft] at hVisit
      refine ⟨q', ?_, hLasts.trans hVisitLasts⟩
      rw [defineFrom_of_ok hScript hVisit, hLater, Option.map_some, List.map_cons,
        hSplit _ (todo.map _), List.countP_cons, hContent]
      cases mentions v.name p.content <;> simp [Nat.add_comm]

-- ---------------------------------------------------------------------------
-- All turns
-- ---------------------------------------------------------------------------

/-- An element with all its declarations. -/
def settledPiece (names : List Text) (p : Piece) : Piece :=
  { p with content := declared (declarationsIn names p.content) p.content }

/-- The number of declarations in a list of elements. -/
def declarationCount (names : List Text) (ps : List Piece) : Nat :=
  (ps.map fun p => (declarationsIn names p.content).length).sum

theorem settledPiece_cons (name : Text) (names : List Text) (p : Piece) :
    settledPiece (name :: names) p = settledPiece names (declaredPiece name p) := by
  unfold settledPiece declaredPiece
  by_cases hMentions : mentions name p.content = true
  · rw [declarationsIn_of_mentions hMentions, declared_cons, declaredIn_of_mentions hMentions]
  · rw [declarationsIn_of_not hMentions, declaredIn_of_not hMentions]

/-- Each turn counts the scripts that mention its name by then. -/
theorem declarationCount_cons (name : Text) (names : List Text) (ps : List Piece) :
    declarationCount (name :: names) ps = (ps.countP fun p => mentions name p.content) +
      declarationCount names (ps.map (declaredPiece name)) := by
  induction ps with
  | nil => rfl
  | cons p ps ih =>
    unfold declarationCount at ih ⊢
    have hHere : (declarationsIn (name :: names) p.content).length =
        (if mentions name p.content = true then 1 else 0) +
          (declarationsIn names (declaredPiece name p).content).length := by
      show _ = _ + (declarationsIn names (declaredIn name p.content)).length
      by_cases hMentions : mentions name p.content = true
      · rw [declarationsIn_of_mentions hMentions, if_pos hMentions, List.length_cons]
        omega
      · rw [declarationsIn_of_not hMentions, if_neg hMentions, declaredIn_of_not hMentions]
        omega
    rw [List.map_cons, List.sum_cons, ih, List.map_cons, List.map_cons, List.sum_cons,
      List.countP_cons, hHere]
    omega

theorem defineAll_of_unaided (hTeam : team.IsUnaided) (hTail : IsTail .script tail)
    (vs : List UndefinedVariable) : (∀ v ∈ vs, IsName v.name) → ∀ (ps : List Piece) (s : Progress),
      (∀ p ∈ ps, p.IsElement .script) →
        ∃ q, defineAll team (assemble ps tail) vs s =
          (.ok (assemble (ps.map (settledPiece (vs.map (·.name)))) tail,
            declarationCount (vs.map (·.name)) ps), q) ∧ q.endless = s.endless := by
  induction vs with
  | nil =>
    intro _ ps s _
    refine ⟨s, ?_, rfl⟩
    have hSame : ps.map (settledPiece []) = ps := List.map_id ps
    have hNone : declarationCount [] ps = 0 := by
      simp [declarationCount, declarationsIn]
    rw [defineAll, List.map_nil, hSame, hNone]
    rfl
  | cons v vs ih =>
    intro hNames ps s hPieces
    obtain ⟨hName, hRest⟩ := List.forall_mem_cons.mp hNames
    obtain ⟨q, hTurn, hTurnLasts⟩ := defineFrom_of_unaided hTeam hName hTail ps [] s hPieces
    have hNew : ∀ p ∈ ps.map (declaredPiece v.name), p.IsElement .script := by
      intro p hp
      obtain ⟨r, hr, rfl⟩ := List.mem_map.mp hp
      exact declaredPiece_isElement hName (hPieces r hr)
    obtain ⟨q', hLater, hLasts⟩ := ih hRest (ps.map (declaredPiece v.name)) q hNew
    have hSettled : settledPiece (v.name :: vs.map (·.name)) =
        settledPiece (vs.map (·.name)) ∘ declaredPiece v.name :=
      funext (settledPiece_cons v.name (vs.map (·.name)))
    refine ⟨q', ?_, hLasts.trans hTurnLasts⟩
    rw [defineAll]
    refine Run.bind_eq_of_ok (Run.ofLoop_of_some hTurn) (Run.bind_eq_of_ok hLater ?_)
    rw [List.map_cons, hSettled, declarationCount_cons, ← List.map_map]
    rfl

-- ---------------------------------------------------------------------------
-- Which names are declared
-- ---------------------------------------------------------------------------

theorem declarationsIn_append (before behind : List Text) : ∀ script : Text,
    declarationsIn (before ++ behind) script = declarationsIn before script ++
      declarationsIn behind (declared (declarationsIn before script) script) := by
  induction before with
  | nil => exact fun _ => rfl
  | cons name before ih =>
    intro script
    rw [List.cons_append]
    by_cases hMentions : mentions name script = true
    · rw [declarationsIn_of_mentions hMentions, declarationsIn_of_mentions hMentions, ih,
        List.cons_append, declared_cons, ← declaredIn_of_mentions hMentions]
    · rw [declarationsIn_of_not hMentions, declarationsIn_of_not hMentions, ih]

theorem names_sublist (names : List Text) : ∀ script : Text,
    ((declarationsIn names script).map (·.name)).Sublist names := by
  induction names with
  | nil => exact fun _ => List.Sublist.refl _
  | cons name names ih =>
    intro script
    by_cases hMentions : mentions name script = true
    · rw [declarationsIn_of_mentions hMentions, List.map_cons]
      exact (ih _).cons_cons name
    · rw [declarationsIn_of_not hMentions]
      exact (ih _).cons name

theorem comment_of_mem (names : List Text) : ∀ script : Text, ∀ d ∈ declarationsIn names script,
    d.comment = scopeComment ∨ d.comment = fallbackComment := by
  induction names with
  | nil => exact fun _ d hd => absurd hd List.not_mem_nil
  | cons name names ih =>
    intro script d hd
    by_cases hMentions : mentions name script = true
    · rw [declarationsIn_of_mentions hMentions] at hd
      rcases List.mem_cons.mp hd with rfl | hd
      · unfold declarationFor
        dsimp only
        split
        · exact .inl rfl
        · exact .inr rfl
      · exact ih _ d hd
    · rw [declarationsIn_of_not hMentions] at hd
      exact ih _ d hd

/-- At its turn a name is declared if the script mentions it by then. -/
theorem declared_at_turn {before behind : List Text} (hNodup : (before ++ name :: behind).Nodup)
    (script : Text) : name ∈ (declarationsIn (before ++ name :: behind) script).map (·.name) ↔
      mentions name (declared (declarationsIn before script) script) = true := by
  obtain ⟨-, hOnce, hApart⟩ := List.nodup_append.mp hNodup
  have hNotBefore : name ∉ (declarationsIn before script).map (·.name) := by
    intro hMem
    exact hApart name ((names_sublist before script).subset hMem) name (List.mem_cons_self ..) rfl
  have hNotBehind (t : Text) : name ∉ (declarationsIn behind t).map (·.name) := by
    intro hMem
    exact (List.nodup_cons.mp hOnce).1 ((names_sublist behind t).subset hMem)
  rw [declarationsIn_append, List.map_append, List.mem_append]
  generalize declared (declarationsIn before script) script = met
  by_cases hMentions : mentions name met = true
  · rw [declarationsIn_of_mentions hMentions]
    constructor
    · exact fun _ => hMentions
    · exact fun _ => .inr (List.mem_cons_self ..)
  · rw [declarationsIn_of_not hMentions]
    constructor
    · rintro (hBefore | hBehind)
      · exact absurd hBefore hNotBefore
      · exact absurd hBehind (hNotBehind met)
    · exact fun h => absurd h hMentions

/-- How an element comes out of the turns of some names, with these declarations before
its script. -/
structure IsSettled (names : List Text) (p q : Piece) (ds : List Declaration) : Prop where
  /-- The text before the element is the same. -/
  gap : q.gap = p.gap
  /-- So is the opening tag. -/
  opening : q.opening = p.opening
  /-- So is the closing tag. -/
  closing : q.closing = p.closing
  /-- The script follows its declarations, of which the last one comes first. -/
  content : q.content = ds.reverse.flatMap Declaration.text ++ p.content
  /-- Each name is declared once at most, in the order of the turns. -/
  order : (ds.map (·.name)).Sublist names
  comments : ∀ d ∈ ds, d.comment = scopeComment ∨ d.comment = fallbackComment
  /-- A name is declared exactly when the script mentions it, or a declaration that was put
  before the script at an earlier turn brings it along. -/
  declared : ∀ before name behind, names = before ++ name :: behind →
    (name ∈ ds.map (·.name) ↔ mentions name p.content = true ∨
      ∃ d ∈ ds, d.name ∈ before ∧ d.brings name = true)
  /-- So if none is brought along, the names that are declared are those mentioned. -/
  plain : (∀ name ∈ names, ∀ d ∈ ds, d.brings name = false) →
    ds.map (·.name) = names.filter fun name => mentions name p.content

theorem plain_declarationsIn (names : List Text) : (∀ name ∈ names, IsName name) →
    ∀ script : Text,
      (∀ name ∈ names, ∀ d ∈ declarationsIn names script, d.brings name = false) →
        (declarationsIn names script).map (·.name) =
          names.filter fun name => mentions name script := by
  induction names with
  | nil => exact fun _ _ _ => rfl
  | cons name names ih =>
    intro hNames script hPlain
    obtain ⟨-, hRest⟩ := List.forall_mem_cons.mp hNames
    obtain ⟨-, hLater⟩ := List.forall_mem_cons.mp hPlain
    by_cases hMentions : mentions name script = true
    · rw [declarationsIn_of_mentions hMentions] at hLater ⊢
      have hSame : ∀ w ∈ names, mentions w (declaredIn name script) = mentions w script := by
        intro w hw
        obtain ⟨hFirst, -⟩ := List.forall_mem_cons.mp (hLater w hw)
        rw [Bool.eq_iff_iff, mentions_declaredIn (hRest w hw) hMentions, hFirst]
        simp
      have hNames' := ih hRest (declaredIn name script) fun w hw =>
        (List.forall_mem_cons.mp (hLater w hw)).2
      rw [List.map_cons, List.filter_cons, if_pos hMentions, hNames', List.filter_congr hSame]
      rfl
    · rw [declarationsIn_of_not hMentions] at hLater ⊢
      rw [List.filter_cons, if_neg hMentions]
      exact ih hRest script hLater

theorem isSettled_settledPiece (hNames : ∀ name ∈ names, IsName name) (hNodup : names.Nodup)
    (p : Piece) : IsSettled names p (settledPiece names p) (declarationsIn names p.content) := by
  refine ⟨rfl, rfl, rfl, rfl, names_sublist names _, comment_of_mem names _, ?_,
    plain_declarationsIn names hNames _⟩
  rintro before name behind rfl
  have hName : IsName name := hNames name (by simp)
  rw [declared_at_turn hNodup, mentions_declared hName]
  refine or_congr_right ?_
  constructor
  · rintro ⟨d, hd, hBrings⟩
    refine ⟨d, ?_, (names_sublist before _).subset (List.mem_map_of_mem hd), hBrings⟩
    rw [declarationsIn_append]
    exact List.mem_append_left _ hd
  · rintro ⟨d, hd, hBefore, hBrings⟩
    rw [declarationsIn_append] at hd
    rcases List.mem_append.mp hd with hd | hd
    · exact ⟨d, hd, hBrings⟩
    · -- what is declared later has another name
      have hBehind : d.name ∈ name :: behind :=
        (names_sublist (name :: behind) _).subset (List.mem_map_of_mem hd)
      exact absurd rfl ((List.nodup_append.mp hNodup).2.2 d.name hBefore d.name hBehind)

theorem settledPiece_isElement (names : List Text) : (∀ name ∈ names, IsName name) →
    ∀ {p : Piece}, p.IsElement .script → (settledPiece names p).IsElement .script := by
  induction names with
  | nil => exact fun _ _ hPiece => hPiece
  | cons name names ih =>
    intro hNames p hPiece
    obtain ⟨hName, hRest⟩ := List.forall_mem_cons.mp hNames
    rw [settledPiece_cons]
    exact ih hRest (declaredPiece_isElement hName hPiece)

/-- Nothing goes before a blank script. -/
theorem declarationsIn_of_allBlank (hNames : ∀ name ∈ names, IsName name)
    (hBlank : Text.allBlank script = true) : declarationsIn names script = [] := by
  induction names with
  | nil => rfl
  | cons name names ih =>
    obtain ⟨hName, hRest⟩ := List.forall_mem_cons.mp hNames
    rw [declarationsIn_of_not (not_mentions_of_allBlank hName hBlank), ih hRest]

/-- Where nothing is counted, nothing is declared. -/
theorem map_settledPiece_eq_self {ps : List Piece} (h : declarationCount names ps = 0) :
    ps.map (settledPiece names) = ps := by
  refine (List.map_congr_left ?_).trans (List.map_id ps)
  intro p hp
  have hNone : (declarationsIn names p.content).length = 0 :=
    List.sum_eq_zero_iff_forall_eq_nat.mp h _ (List.mem_map_of_mem hp)
  rw [settledPiece, List.length_eq_zero_iff.mp hNone]
  rfl

theorem nodup_firstOfEachName (faults : List UndefinedVariable) :
    ((firstOfEachName faults).map (·.name)).Nodup := by
  induction faults with
  | nil => exact List.nodup_nil
  | cons v faults ih =>
    rw [firstOfEachName, List.map_cons, List.nodup_cons]
    constructor
    · intro hMem
      obtain ⟨u, hu, hName⟩ := List.mem_map.mp hMem
      have hOther := (List.mem_filter.mp hu).2
      simp [hName] at hOther
    · exact ih.sublist ((List.filter_sublist).map _)

-- ---------------------------------------------------------------------------
-- The page
-- ---------------------------------------------------------------------------

/-- The names of the turns, given the faults of a page run. -/
def turnNames (faults : List UndefinedVariable) : List Text :=
  (firstOfEachName faults).map (·.name)

theorem isName_of_mem_turnNames {events : List Page.Event} {faults : List UndefinedVariable}
    (hEvents : Page.undefinedVariables events = .ok faults) : ∀ name ∈ turnNames faults,
      IsName name := by
  intro name hName
  obtain ⟨v, hv, rfl⟩ := List.mem_map.mp hName
  exact Page.name_isName hEvents (mem_of_mem_firstOfEachName hv)

/-- The page with all its declarations. -/
def settledPage (names : List Text) (page : Text) : Text :=
  assemble ((Document.dissect .script page).1.map (settledPiece names))
    (Document.dissect .script page).2

theorem settledPage_eq_self {page : Text}
    (h : declarationCount names (Document.dissect .script page).1 = 0) :
    settledPage names page = page := by
  rw [settledPage, map_settledPiece_eq_self h, Document.assemble_dissect]

/-- Without a script that is not blank there is nothing to declare. -/
theorem declarationCount_of_isEmpty (hNames : ∀ name ∈ names, IsName name) {page : Text}
    (hEmpty : (inlineScripts page).isEmpty = true) :
    declarationCount names (Document.dissect .script page).1 = 0 := by
  have hSolid : solid (Document.dissect .script page).1 = 0 := by
    rw [← Document.length_filter_locate _ 0 1]
    exact List.length_eq_zero_iff.mpr (List.isEmpty_iff.mp hEmpty)
  rw [declarationCount, List.sum_eq_zero_iff_forall_eq_nat]
  intro n hn
  obtain ⟨p, hp, rfl⟩ := List.mem_map.mp hn
  have hBlank : Text.allBlank p.content = true := by
    simpa using List.countP_eq_zero.mp hSolid p hp
  rw [declarationsIn_of_allBlank hNames hBlank, List.length_nil]

/-- What the pass does with the faults that it finds. -/
theorem repair_of_faults (hTeam : team.IsUnaided) {executor : Executor}
    (hExecutor : team.executor = some executor) {page : Text} {s : Progress}
    {faults : List UndefinedVariable}
    (hFaults : Page.undefinedVariables (executor s.settleTimes.length page) = .ok faults) :
    ∃ q, undefinedVariable.repair team page s = (.ok (settledPage (turnNames faults) page,
      declarationCount (turnNames faults) (Document.dissect .script page).1), q) ∧
        q.endless = s.endless := by
  have hNames := isName_of_mem_turnNames hFaults
  obtain ⟨hPieces, hTail⟩ := Document.dissect_isElement .script page
  by_cases hEmpty : (inlineScripts page).isEmpty = true
  · have hNone := declarationCount_of_isEmpty hNames hEmpty
    rw [undefinedVariable_of_isEmpty hEmpty, settledPage_eq_self hNone, hNone]
    exact ⟨s, rfl, rfl⟩
  · have hVariables : ∀ v ∈ firstOfEachName faults, IsName v.name := fun v hv =>
      hNames v.name (List.mem_map_of_mem hv)
    obtain ⟨q, hAll, hLasts⟩ := defineAll_of_unaided hTeam hTail (firstOfEachName faults) hVariables
      (Document.dissect .script page).1 (s.settling none) hPieces
    rw [Document.assemble_dissect] at hAll
    rw [undefinedVariable_of_faults hEmpty hExecutor hFaults]
    exact ⟨q, hAll, hLasts⟩

/-- The pass on a page whose faults can be read. -/
theorem run_of_faults (hTeam : team.IsUnaided) {executor : Executor}
    (hExecutor : team.executor = some executor) {page : Text} {s : Progress}
    {faults : List UndefinedVariable}
    (hFaults : Page.undefinedVariables (executor s.settleTimes.length page) = .ok faults) :
    ∃ s', undefinedVariable.run team page s =
      (.ok ⟨undefinedVariableName, settledPage (turnNames faults) page,
        declarationCount (turnNames faults) (Document.dissect .script page).1, false, none⟩,
        s') ∧ s'.endless = s.endless := by
  generalize hCount : declarationCount (turnNames faults) (Document.dissect .script page).1 = n
  obtain ⟨q, hRepair, hLasts⟩ := repair_of_faults hTeam hExecutor
    (s := s.noting (.passStarted undefinedVariableName)) hFaults
  rw [hCount] at hRepair
  refine ⟨q.noting (.completed undefinedVariableName n untimed none), ?_, hLasts⟩
  rw [run_of_ok rfl hRepair]
  by_cases hZero : n = 0
  · rw [if_pos hZero, settledPage_eq_self (hCount.trans hZero)]
    rfl
  · rw [if_neg hZero]
    rfl

/-- The pass on a page without a script that is not blank. -/
theorem run_of_isEmpty {page : Text} (hEmpty : (inlineScripts page).isEmpty = true)
    (team : Collaborators) (s : Progress) :
    ∃ s', undefinedVariable.run team page s =
      (.ok ⟨undefinedVariableName, page, 0, false, none⟩, s') := by
  exact ⟨_, run_of_ok rfl (undefinedVariable_of_isEmpty hEmpty)⟩

/-- The elements of the page with all its declarations. -/
theorem dissect_settledPage (hNames : ∀ name ∈ names, IsName name) (page : Text) :
    Document.dissect .script (settledPage names page) =
      ((Document.dissect .script page).1.map (settledPiece names),
        (Document.dissect .script page).2) := by
  obtain ⟨hPieces, hTail⟩ := Document.dissect_isElement .script page
  refine Document.dissect_assemble ?_ hTail
  intro p hp
  obtain ⟨r, hr, rfl⟩ := List.mem_map.mp hp
  exact settledPiece_isElement _ hNames (hPieces r hr)

/-- **Declaring without help**: when no answer is to be had, the pass yields a page with
the same elements and the same text around them. Before each script stand declarations, and
they are counted. A name is declared for a script exactly when the script mentions it or an
earlier declaration brings it along. Only a line number with too many digits aborts the
pass, and nothing is declared then. -/
theorem undefinedVariable_declares (hTeam : team.IsUnaided) {executor : Executor}
    (hExecutor : team.executor = some executor) (page : Text) (s : Progress) :
    (∀ faults, Page.undefinedVariables (executor s.settleTimes.length page) = .ok faults →
      ∃ page' n s' after, undefinedVariable.run team page s =
          (.ok ⟨undefinedVariableName, page', n, false, none⟩, s') ∧
        s'.endless = s.endless ∧
        Document.dissect .script page' =
          (after.map Prod.fst, (Document.dissect .script page).2) ∧
        List.Forall₂ (fun p q => IsSettled (turnNames faults) p q.1 q.2)
          (Document.dissect .script page).1 after ∧
        n = (after.map fun q => q.2.length).sum) ∧
    ∀ cause, Page.undefinedVariables (executor s.settleTimes.length page) = .error cause →
      (undefinedVariable.run team page s).1 =
        if (inlineScripts page).isEmpty then .ok ⟨undefinedVariableName, page, 0, false, none⟩
        else .error (.unreadable cause) := by
  constructor
  · intro faults hFaults
    have hNames := isName_of_mem_turnNames hFaults
    obtain ⟨s', hRun, hLasts⟩ := run_of_faults hTeam hExecutor hFaults
    refine ⟨settledPage (turnNames faults) page, _, s',
      (Document.dissect .script page).1.map fun p =>
        (settledPiece (turnNames faults) p, declarationsIn (turnNames faults) p.content),
      hRun, hLasts, ?_, ?_, ?_⟩
    · rw [dissect_settledPage hNames, List.map_map]
      rfl
    · rw [List.forall₂_map_right_iff, List.forall₂_same]
      intro p _
      exact isSettled_settledPiece hNames (nodup_firstOfEachName faults) p
    · rw [declarationCount, List.map_map]
      rfl
  · intro cause hCause
    by_cases hEmpty : (inlineScripts page).isEmpty = true
    · obtain ⟨s', hRun⟩ := run_of_isEmpty hEmpty team s
      rw [hRun, if_pos hEmpty]
    · have hRepair := undefinedVariable_of_unreadable hEmpty hExecutor
        (s := s.noting (.passStarted undefinedVariableName)) hCause
      rw [run_of_error rfl hRepair, if_neg hEmpty]

/-- A page whose script calls `foo`. -/
def callOfFoo : Text := "<script>foo();</script>".toList

/-- An executor that reports `foo` and `x` as undefined, in this order. -/
def missingFooThenX : Executor := fun _ _ =>
  [⟨.pageError, "ReferenceError: foo is not defined".toList, none, none⟩, missingXEvent]

/-- The script does not mention `x`, but the declaration of `foo` brings it along, so that
both are declared. -/
theorem undefinedVariable_declares_callOfFoo :
    Collaborators.IsUnaided ⟨none, some missingFooThenX⟩ ∧
      mentions "x".toList "foo();".toList = false ∧
      ∃ page' s', undefinedVariable.run ⟨none, some missingFooThenX⟩ callOfFoo .initial =
          (.ok ⟨undefinedVariableName, page', 2, false, none⟩, s') ∧
        s'.endless = false ∧
        ∃ after, Document.dissect .script page' =
            (after.map Prod.fst, (Document.dissect .script callOfFoo).2) ∧
          List.Forall₂ (fun p q => IsSettled ["foo".toList, "x".toList] p q.1 q.2)
            (Document.dissect .script callOfFoo).1 after := by
  have hUnaided : Collaborators.IsUnaided ⟨none, some missingFooThenX⟩ := by
    intro oracle hOracle
    simp at hOracle
  have hFaults : Page.undefinedVariables (missingFooThenX 0 callOfFoo) =
      .ok [⟨"foo".toList, none, "ReferenceError: foo is not defined".toList⟩, missingX] := by
    decide +kernel
  have hTwice : declarationCount (turnNames [⟨"foo".toList, none,
      "ReferenceError: foo is not defined".toList⟩, missingX])
      (Document.dissect .script callOfFoo).1 = 2 := by
    decide +kernel
  obtain ⟨page', n, s', after, hRun, hLasts, hPieces, hSettled, -⟩ :=
    (undefinedVariable_declares hUnaided rfl callOfFoo .initial).1 _ hFaults
  obtain ⟨q, hCounted, -⟩ := run_of_faults hUnaided rfl (s := .initial) hFaults
  rw [hTwice, hRun] at hCounted
  obtain rfl : n = 2 := congrArg PassResult.fixes (Except.ok.inj (Prod.mk.inj hCounted).1)
  exact ⟨hUnaided, by decide +kernel, page', s', hRun, hLasts, after, hPieces, hSettled⟩

end Pass

end SketchRepair
