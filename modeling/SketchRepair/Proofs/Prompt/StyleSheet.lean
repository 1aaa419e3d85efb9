import Mathlib.Data.List.Flatten
import SketchRepair.Proofs.Repair.Run
import SketchRepair.Proofs.Script.Nesting
import SketchRepair.Proofs.Stylesheet.NormalForm
import SketchRepair.Proofs.Text.Blank
import SketchRepair.Repair.Pass.StyleSheet

/-!
# SketchRepair — what is left of an answer about a style sheet

An answer with a brace in it is taken for a sheet, in its fenced block or as a whole. Of
this text, lines that begin like no line of CSS are dropped, each with all that stands on
it. What a rule needs may stand there too: `[hidden] {` begins with a bracket, and a
comment may have a rule behind it. So a sheet loses braces exactly where such a line
holds one, and nothing is left of an answer that has only such lines.

* `filter_flatten_filter_eq_iff` — when nothing is lost with the lines that are dropped;
* `filter_cleaned` — but for blanks, the sheet is the lines that are kept;
* `readAnswer_eq_corrected_iff` — which answers are taken for a sheet;
* `repairSheet_of_corrected` — what becomes of the sheet that was asked about;
* `readAnswer_keeps_own_lines` — **what is left of an answer**.
-/

namespace SketchRepair

open Prompt.StyleContext (cleaned dropForeign isForeign noChangesWord readAnswer)
open Stylesheet (braces differs)

namespace Prompt

namespace StyleContext

/-- What an answer gives for the sheet: its fenced block if that holds anything, or else
all of it. -/
def body (answer : Text) : Text :=
  (Answer.codeBlock? ["css".toList] (Text.trim answer)).getD (Text.trim answer)

/-- The lines of a text that are not foreign to a sheet. -/
def ownLines (t : Text) : List Text := (Text.lines t).filter fun l => !isForeign l

variable {answer css : Text} {q : Char → Bool}

-- ---------------------------------------------------------------------------
-- Lines that are dropped
-- ---------------------------------------------------------------------------

theorem flatten_dropForeign (ls : List Text) :
    (dropForeign ls).flatten = (ls.filter fun l => !isForeign l).flatten := by
  fun_induction dropForeign ls with
  | case1 => rfl
  | case2 l hForeign => simp [hForeign]
  | case3 l hOwn => simp [hOwn]
  | case4 l ls hSome hForeign ih => rw [ih, List.filter_cons_of_neg (by simp [hForeign])]
  | case5 l ls hSome hOwn ih =>
    rw [List.filter_cons_of_pos (by simp [hOwn]), List.flatten_cons, List.flatten_cons, ih]

/-- With the lines that are dropped nothing that `q` picks is lost exactly if none of
them holds any of it. -/
theorem filter_flatten_filter_eq_iff (keep : Text → Bool) (ls : List Text) :
    (ls.filter keep).flatten.filter q = ls.flatten.filter q ↔
      ∀ l ∈ ls, keep l = false → l.filter q = [] := by
  induction ls with
  | nil => simp
  | cons l ls ih =>
    rw [List.forall_mem_cons, ← ih, List.flatten_cons, List.filter_append]
    cases hKeep : keep l with
    | true =>
      rw [List.filter_cons_of_pos hKeep, List.flatten_cons, List.filter_append,
        List.append_right_inj]
      simp
    | false =>
      rw [List.filter_cons_of_neg (by simp [hKeep])]
      constructor
      · intro hSame
        -- what is picked from the lines behind cannot make up for anything
        have hBehind : ((ls.filter keep).flatten.filter q).length ≤ (ls.flatten.filter q).length :=
          (List.filter_sublist.flatten.filter q).length_le
        rw [hSame, List.length_append] at hBehind
        have hNone : l.filter q = [] := List.length_eq_zero_iff.mp (by omega)
        rw [hNone] at hSame
        exact ⟨fun _ => hNone, hSame⟩
      · rintro ⟨hNone, hSame⟩
        rw [hNone rfl, hSame, List.nil_append]

/-- But for blanks, the sheet is made up of the lines that are kept. -/
theorem filter_cleaned (hSolid : ∀ c, isBlank c = true → q c = false) (answer : Text) :
    (cleaned (Text.trim answer)).filter q = (ownLines (body answer)).flatten.filter q := by
  show (Text.trim (Text.unlines (dropForeign (Text.lines (body answer))))).filter q = _
  rw [Text.filter_trim hSolid, Text.filter_unlines (hSolid '\n' rfl), flatten_dropForeign]
  rfl

/-- No blank is a brace. -/
theorem not_brace_of_blank (c : Char) (h : isBlank c = true) : (c == '{' || c == '}') = false := by
  rw [Bool.eq_false_iff, ne_eq, Bool.or_eq_true, beq_iff_eq, beq_iff_eq]
  rintro (rfl | rfl) <;> exact absurd h (by decide)

theorem braces_cleaned (answer : Text) :
    braces (cleaned (Text.trim answer)) = braces (ownLines (body answer)).flatten :=
  filter_cleaned not_brace_of_blank answer

theorem allBlank_cleaned_iff (answer : Text) : Text.allBlank (cleaned (Text.trim answer)) = true ↔
    ∀ l ∈ Text.lines (body answer), isForeign l = true ∨ Text.allBlank l = true := by
  rw [Text.allBlank_iff_filter, filter_cleaned (by simp), ← Text.allBlank_iff_filter]
  simp only [Text.allBlank, ownLines, List.all_flatten, List.all_filter, List.all_eq_true,
    Bool.or_eq_true, Bool.not_not]

-- ---------------------------------------------------------------------------
-- Answers that are taken for a sheet
-- ---------------------------------------------------------------------------

theorem braces_trim (t : Text) : braces (Text.trim t) = braces t :=
  Text.filter_trim not_brace_of_blank t

/-- An answer is taken for a sheet exactly if there is a brace in it. -/
theorem readAnswer_eq_corrected_iff :
    readAnswer answer = .corrected css ↔ braces answer ≠ [] ∧ css = cleaned (Text.trim answer) := by
  have hNone : braces answer = [] ↔
      (!(Text.trim answer).contains '{' && !(Text.trim answer).contains '}') = true := by
    rw [← braces_trim, braces, List.filter_eq_nil_iff]
    simp only [Bool.and_eq_true, Bool.not_eq_true', List.contains_eq_mem, decide_eq_false_iff_not,
      Bool.or_eq_true, beq_iff_eq, not_or]
    exact ⟨fun h => ⟨fun hOpen => (h _ hOpen).1 rfl, fun hClose => (h _ hClose).2 rfl⟩,
      fun h c hc => ⟨fun hOpen => h.1 (hOpen ▸ hc), fun hClose => h.2 (hClose ▸ hc)⟩⟩
  have hWord : Text.trim answer = noChangesWord → braces answer = [] := by
    intro hSame
    rw [← braces_trim, hSame]
    decide
  unfold readAnswer
  dsimp only
  split
  · next hSame => simp [hWord hSame]
  · split
    · next hEmpty => simp [hNone.mpr hEmpty]
    · next hSome => simp [mt hNone.mp hSome, eq_comm]

end StyleContext

end Prompt

namespace Pass

open Prompt.StyleContext (body ownLines)
open Script (Nested)

variable {team : Collaborators} {oracle : Oracle} {e : Document.Element} {details : List Text}
  {s : Progress} {answer css : Text}

/-- A sheet that differs in more than blanks is put in, on lines of its own. -/
theorem repairSheet_of_corrected (hOracle : team.oracle = some oracle)
    (hAnswer : oracle s.questions.length (Prompt.StyleContext.request ⟨e.content, details⟩) =
      .answer answer)
    (hRead : readAnswer answer = .corrected css) :
    ∃ q, repairSheet team e details s =
      (.ok (if differs e.content css = true then some (['\n'] ++ css ++ "\n    ".toList) else none),
        q) := by
  have hAsk : Run.ask styleSheetName (some oracle) _ s = _ := Run.ask_of_answer hAnswer
  rw [← hOracle] at hAsk
  unfold repairSheet
  rw [Run.bind_of_ok _ hAsk]
  simp only [hRead]
  split
  · exact ⟨_, Run.log_bind_apply _ _ _⟩
  · exact ⟨_, rfl⟩

/-- **What is left of an answer.** An answer is taken for a sheet exactly if there is a
brace in it. The sheet then has the braces of those lines that are not foreign, in their
order: all braces of the answer exactly if no foreign line holds one, and balanced ones
exactly if those of the lines that are kept are. The sheet that was asked about becomes
blank exactly if every line of the answer is foreign or blank. -/
theorem readAnswer_keeps_own_lines (answer : Text) :
    ((∃ css, readAnswer answer = .corrected css) ↔ braces answer ≠ []) ∧
    ∀ css, readAnswer answer = .corrected css →
      braces css = braces (ownLines (body answer)).flatten ∧
      (braces css = braces (body answer) ↔
        ∀ l ∈ Text.lines (body answer), isForeign l = true → braces l = []) ∧
      (Nested '{' '}' css ↔ Nested '{' '}' (ownLines (body answer)).flatten) ∧
      ∀ team oracle e details s, team.oracle = some oracle →
        oracle s.questions.length (Prompt.StyleContext.request ⟨e.content, details⟩) =
          .answer answer →
        ∃ q, repairSheet team e details s =
          (.ok (if differs e.content css = true then some (['\n'] ++ css ++ "\n    ".toList)
            else none), q) ∧
        (Text.allBlank (['\n'] ++ css ++ "\n    ".toList) = true ↔
          ∀ l ∈ Text.lines (body answer), isForeign l = true ∨ Text.allBlank l = true) := by
  refine ⟨?_, fun css hRead => ?_⟩
  · simp only [Prompt.StyleContext.readAnswer_eq_corrected_iff, exists_and_left, exists_eq,
      and_true]
  obtain ⟨-, rfl⟩ := Prompt.StyleContext.readAnswer_eq_corrected_iff.mp hRead
  have hBraces := Prompt.StyleContext.braces_cleaned answer
  refine ⟨hBraces, ?_, ⟨Script.nested_congr hBraces, Script.nested_congr hBraces.symm⟩, ?_⟩
  · have hBody : braces (body answer) = braces (Text.lines (body answer)).flatten := by
      rw [braces, braces, ← Text.filter_unlines rfl, Text.unlines_lines]
    have hLost := Prompt.StyleContext.filter_flatten_filter_eq_iff
      (q := fun c => c == '{' || c == '}') (fun l => !isForeign l) (Text.lines (body answer))
    rw [hBraces, hBody]
    refine hLost.trans ?_
    simp only [Bool.not_eq_false']
    rfl
  · intro team oracle e details s hOracle hAnswer
    obtain ⟨q, hSheet⟩ := repairSheet_of_corrected hOracle hAnswer hRead
    refine ⟨q, hSheet, ?_⟩
    rw [← Prompt.StyleContext.allBlank_cleaned_iff]
    simp [Text.allBlank, isBlank]

/-- A rule for an attribute. Its first line begins with a bracket. -/
def hiddenRule : Text := "[hidden] \x7b\n  color: red;\n\x7d".toList

/-- The rule loses its first line, and the brace on it. -/
theorem readAnswer_keeps_own_lines_hiddenRule :
    readAnswer hiddenRule = .corrected "color: red;\n\x7d".toList ∧
      braces (body hiddenRule) = "\x7b\x7d".toList ∧
      ¬ Nested '{' '}' "color: red;\n\x7d".toList ∧
      ∃ q, repairSheet ⟨some fun _ _ => .answer hiddenRule, none⟩
          ⟨.style, "<style>".toList, "p".toList, "</style>".toList, 0, 1⟩ [] .initial =
        (.ok (some "\ncolor: red;\n\x7d\n    ".toList), q) := by
  have hRead : readAnswer hiddenRule = .corrected "color: red;\n\x7d".toList := by decide
  obtain ⟨-, -, hNested, hPass⟩ := (readAnswer_keeps_own_lines hiddenRule).2 _ hRead
  obtain ⟨q, hSheet, -⟩ := hPass ⟨some fun _ _ => .answer hiddenRule, none⟩ _
    ⟨.style, "<style>".toList, "p".toList, "</style>".toList, 0, 1⟩ [] .initial rfl rfl
  refine ⟨hRead, by decide, ?_, q, hSheet⟩
  intro hBalanced
  exact absurd (hNested.mp hBalanced).closed (by decide)

end Pass

end SketchRepair
