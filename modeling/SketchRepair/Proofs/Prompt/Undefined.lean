import SketchRepair.Proofs.Page.Fault
import SketchRepair.Proofs.Repair.Run
import SketchRepair.Proofs.Script.Identifier
import SketchRepair.Proofs.Text.Position
import SketchRepair.Repair.Pass.UndefinedVariable

/-!
# SketchRepair — where an undefined variable is looked for

The name of an undefined variable may hold `$`, and is looked for as a word, to which `$`
does not belong. So a script may use the variable and not mention it: then it is passed
over. And a mention may be the beginning or the end of a longer identifier: then, without
a proposal, that one is cut up by the guard.

* `guardPatch?_of_places` — the guard changes the first word of the script, on its line;
* `defineInElement_of_not_mentions` — a script without the word is passed over;
* `mentions_are_words` — **what is listed, and which of it are identifiers**.
-/

namespace SketchRepair

namespace Prompt

namespace UndefinedContext

open Script (IsWhole StandsAt StandsBetween isIdentifierAt mentions places)
open Text (IsLine lineAt)

/-- What a name is guarded with. -/
def guarded (name : Text) : Text := "(window.".toList ++ name ++ " || \x7b\x7d)".toList

variable {c : UndefinedContext} {i : Nat} {later : List Nat}

theorem mentionLines_eq (c : UndefinedContext) :
    c.mentionLines = (places c.name c.script).map (lineAt c.script) := by
  rw [mentionLines, Script.occurrenceLines, places, List.map_map]
  rfl

theorem guardPatch?_eq_none_iff (hPlain : '\\' ∉ c.name) :
    c.guardPatch? = none ↔ places c.name c.script = [] := by
  rw [guardPatch?, guard?, mentionLines_eq, expand_guardTemplate hPlain]
  cases places c.name c.script <;> simp [Except.toOption]

/-- The guard changes the first word of the script, on its line. -/
theorem guardPatch?_of_places (hName : c.name ≠ []) (hBreak : '\n' ∉ c.name)
    (hPlain : '\\' ∉ c.name) (h : places c.name c.script = i :: later) :
    ∃ front a b rest, c.script = front ++ (a ++ c.name ++ b ++ rest) ∧
      IsLine front (a ++ c.name ++ b) rest ∧ (front ++ a).length = i ∧
      c.guardPatch? = some
        { line := lineAt c.script i
          expected := a ++ c.name ++ b
          fixed := a ++ guarded c.name ++ b
          explanation := "guarded '".toList ++ c.name ++ "' with a window fallback".toList } := by
  obtain ⟨before, behind, hText, rfl, -⟩ :=
    Script.standsAt_of_mem_places hName (h ▸ List.mem_cons_self ..)
  obtain ⟨front, a, b, rest, rfl, rfl, hAround⟩ := Text.exists_isLine before behind
  have hLine := hAround c.name hBreak
  have hScript : c.script = front ++ (a ++ c.name ++ b ++ rest) := by rw [hText]; simp
  refine ⟨front, a, b, rest, hScript, hLine, rfl, ?_⟩
  have hNumber : lineAt c.script (front ++ a).length = front.count '\n' + 1 := by
    have hBegin : IsLine front (a ++ (c.name ++ b)) rest := by rwa [← List.append_assoc]
    rw [hText, List.append_assoc (front ++ a), ← List.append_assoc c.name]
    exact hBegin.lineAt
  have hHere : (Text.lines c.script).getD (lineAt c.script (front ++ a).length - 1) [] =
      a ++ c.name ++ b := by
    rw [hNumber, Nat.add_sub_cancel, hScript, List.getD_eq_getElem?_getD, hLine.getElem?_lines]
    rfl
  have hFirst := Script.guardFirst_line hName hLine (hScript ▸ h) (guarded c.name)
  have hGuarded : c.guardTemplate = guarded c.name := rfl
  rw [guardPatch?, guard?, mentionLines_eq, h, List.map_cons, expand_guardTemplate hPlain]
  dsimp only
  rw [hHere, hGuarded, hFirst]
  rfl

/-- A script that holds the name nowhere as a word is passed over. -/
theorem defineInElement_of_not_mentions {team : Collaborators} {v : Page.UndefinedVariable}
    {e : Document.Element} (hName : v.name ≠ []) (h : ∀ i, ¬ StandsAt v.name e.content i)
    (page : Text) (s : Progress) : Pass.defineInElement team v e page s = (.ok (page, 0), s) := by
  have hNone : ¬ mentions v.name e.content = true := by
    rw [Script.mentions_eq_true_iff hName]
    exact not_exists.mpr h
  rw [Pass.defineInElement, if_neg hNone]
  rfl

/-- **Where an undefined variable is looked for.** The lines listed are those of the places
where the name is a word, in order; places do not overlap, and every word begins within one
of them. An identifier that is the name is among them exactly if the name neither begins nor
ends with `$`. What is listed is an identifier exactly if there is no `$` next to it either.
A script that holds the name nowhere as a word is passed over, whatever identifiers it holds;
and the guard changes the first word, whether it is an identifier or a part of one. -/
theorem mentions_are_words (c : UndefinedContext) {message : Text}
    (hNamed : Page.undefinedName? message = some c.name) :
    c.mentionLines = (places c.name c.script).map (lineAt c.script) ∧
      ((places c.name c.script).Pairwise fun i j => i + c.name.length ≤ j) ∧
      (∀ i ∈ places c.name c.script, StandsAt c.name c.script i) ∧
      (∀ i, StandsAt c.name c.script i →
        ∃ j ∈ places c.name c.script, j ≤ i ∧ i < j + c.name.length) ∧
      (∀ a b, c.script = a ++ c.name ++ b → IsWhole a b →
        (a.length ∈ places c.name c.script ↔
          c.name.head? ≠ some '$' ∧ c.name.getLast? ≠ some '$')) ∧
      (∀ a b, c.script = a ++ c.name ++ b → a.length ∈ places c.name c.script →
        (IsWhole a b ↔ (c.name.head? ≠ some '$' ∧ c.name.getLast? ≠ some '$') ∧
          (a.getLast? ≠ some '$' ∧ b.head? ≠ some '$'))) ∧
      (∀ team v e page s, v.name = c.name → e.content = c.script →
        (∀ i, ¬ StandsAt c.name c.script i) →
          Pass.defineInElement team v e page s = (.ok (page, 0), s)) ∧
      (c.guardPatch? = none ↔ ∀ i, ¬ StandsAt c.name c.script i) ∧
      (∀ i later, places c.name c.script = i :: later → ∃ front a b rest,
        c.script = front ++ (a ++ c.name ++ b ++ rest) ∧ IsLine front (a ++ c.name ++ b) rest ∧
          (front ++ a).length = i ∧ c.guardPatch? = some
            { line := lineAt c.script i
              expected := a ++ c.name ++ b
              fixed := a ++ guarded c.name ++ b
              explanation := "guarded '".toList ++ c.name ++ "' with a window fallback".toList }) := by
  have hIsName := Page.isName_of_undefinedName? hNamed
  have hName := hIsName.nonempty
  have hChars : ∀ d ∈ c.name, isIdentifier d = true :=
    fun d hd => Page.isIdentifier_of_isNameChar (hIsName.chars d hd)
  refine ⟨mentionLines_eq c, Script.ordered_places hName _,
    fun i hi => Script.standsAt_of_mem_places hName hi,
    fun i hi => Script.exists_mem_of_standsAt hName hi, ?_, ?_, ?_, ?_,
    fun i later h => guardPatch?_of_places hName (hIsName.not_mem (by decide))
      (hIsName.not_mem (by decide)) h⟩
  · intro a b hText hWhole
    rw [hText, ← Script.standsBetween_iff_of_isWhole hName hChars hWhole]
    exact ⟨Script.standsBetween_of_mem_places hName,
      Script.mem_places_of_isWhole hName hChars hWhole⟩
  · intro a b hText hListed
    rw [hText] at hListed
    exact Script.isWhole_iff_of_standsBetween hName hChars
      (Script.standsBetween_of_mem_places hName hListed)
  · intro team v e page s hSame hContent hNone
    refine defineInElement_of_not_mentions (hSame ▸ hName) ?_ page s
    rwa [hSame, hContent]
  · rw [guardPatch?_eq_none_iff (hIsName.not_mem (by decide)), List.eq_nil_iff_forall_not_mem]
    constructor
    · intro hNone i hi
      obtain ⟨j, hj, -⟩ := Script.exists_mem_of_standsAt hName hi
      exact hNone j hj
    · intro hNone i hi
      exact hNone i (Script.standsAt_of_mem_places hName hi)

/-- Scripts that use variables with `$`. -/
def dollarFirst : UndefinedContext := ⟨"$el.hide();".toList, "$el".toList, []⟩

def dollarBehind : UndefinedContext := ⟨"x$ = x;".toList, "x".toList, []⟩

/-- The identifier `$el` is not listed, so nothing is guarded. In another script `x` is listed
where it begins the identifier `x$`, and that one is cut up. -/
theorem mentions_are_words_dollars :
    (Page.undefinedName? "$el is not defined".toList = some "$el".toList ∧
      IsWhole [] ".hide();".toList ∧ 0 ∉ places "$el".toList "$el.hide();".toList ∧
      dollarFirst.guardPatch? = none) ∧
    (Page.undefinedName? "x is not defined".toList = some "x".toList ∧
      ¬ IsWhole [] "$ = x;".toList ∧ 0 ∈ places "x".toList "x$ = x;".toList ∧
      dollarBehind.guardPatch?.map (·.fixed) = some "(window.x || \x7b\x7d)$ = x;".toList) := by
  have hFirst : Page.undefinedName? "$el is not defined".toList = some dollarFirst.name := by
    decide +kernel
  have hBehind : Page.undefinedName? "x is not defined".toList = some dollarBehind.name := by
    decide +kernel
  have hWhole : IsWhole [] ".hide();".toList := ⟨by decide, by decide⟩
  obtain ⟨-, -, -, -, hListed, -⟩ := mentions_are_words dollarFirst hFirst
  obtain ⟨-, -, -, -, -, hPart, -⟩ := mentions_are_words dollarBehind hBehind
  have hPlace : 0 ∈ places "x".toList "x$ = x;".toList := by
    decide
  refine ⟨⟨hFirst, hWhole, ?_, by decide⟩, hBehind, ?_, hPlace, by decide⟩
  · exact mt (hListed [] ".hide();".toList rfl hWhole).mp (by decide)
  · exact mt (hPart [] "$ = x;".toList rfl hPlace).mp (by decide)

end UndefinedContext

end Prompt

end SketchRepair
