import SketchRepair.Answer.Patches
import SketchRepair.Prompt.Request
import SketchRepair.Script.Name
import SketchRepair.Text.Template

/-!
# SketchRepair — asking about an undefined variable

Every line that mentions the variable is shown with its neighbours. The answer is
a list of line patches; when it is not, its fields are picked out one by one, and
failing that the first mention of the variable is guarded.
-/

namespace SketchRepair

namespace Prompt

/-- A script that mentions an undefined variable. -/
structure UndefinedContext where
  script : Text
  name : Text
  message : Text
  deriving DecidableEq, Repr

namespace UndefinedContext

def instruction : Text :=
  (
    "You are an expert JavaScript developer specializing in emergency fixes for undefined " ++
    "variable errors. You provide minimal, targeted fixes that allow code to compile and " ++
    "run without errors.").toList

/-- How many lines are shown before and after a mention. -/
def radius : Int := 5

/-- The lines that mention the variable, once per mention. -/
def mentionLines (c : UndefinedContext) : List Nat := Script.occurrenceLines c.name c.script

/-- The mention number `n`, on line `line`. -/
def shown (lines : List Text) (n line : Nat) : Text :=
  "\nOCCURRENCE ".toList ++ Decimal.ofNat n ++ " (Line ".toList ++ Decimal.ofNat line ++
    "):\n```javascript\n".toList ++ numberedContext lines line radius ['>'] [' '] ++
    "\n```\nACTUAL LINE TO FIX: \"".toList ++ Text.trim (lines.getD (line - 1) []) ++
    "\"\n".toList

def question (c : UndefinedContext) : Text :=
  let lines := Text.lines c.script
  let mentions := (c.mentionLines.zipIdx 1).map fun (line, n) => shown lines n line
  "I need an EMERGENCY FIX for an undefined variable in my JavaScript code. The browser is reporting this error:

ERROR: ".toList ++
    c.message ++
    "

The undefined variable is: \"".toList ++
    c.name ++
    "\"

I need you to provide the MINIMAL POSSIBLE CHANGES to make the code execute without errors. Here are all occurrences of the variable in the code:

".toList ++
    stacked mentions ++
    "

IMPORTANT INSTRUCTIONS:
1. DO NOT rewrite the entire code - just make the smallest possible changes to fix the error
2. Consider these approaches, in order of preference:
   a) Add a defensive null check (e.g., `if (".toList ++
    c.name ++
    ") \x7b...\x7d` or `".toList ++
    c.name ++
    " && ".toList ++
    c.name ++
    ".property`)
   b) Initialize the variable with a sensible default value
   c) Add a variable declaration at the appropriate scope
3. Format your answer as a JSON array of fix objects like this:
[
  \x7b
    \"lineNumber\": exact_line_number,
    \"original\": \"EXACT original line to replace (must match exactly)\",
    \"replacement\": \"complete replacement line\",
    \"explanation\": \"Brief explanation of what the fix does\"
  \x7d
]
4. Make sure the 'original' field EXACTLY matches an entire line in the code
5. Provide complete line replacements, not partial snippets
6. If multiple approaches are possible, choose the SAFEST one that will prevent runtime errors

Remember, this is an EMERGENCY FIX - prioritize getting the code to run without errors over perfect code.".toList

def request (c : UndefinedContext) : Request := ⟨instruction, c.question, standardTokens⟩

/-! ## Patches without an answer -/

/-- The template that takes the place of a mention. A name that holds a backslash is an
escape in it. -/
def guardTemplate (c : UndefinedContext) : Text :=
  "(window.".toList ++ c.name ++ " || \x7b\x7d)".toList

/-- A name without a backslash is no escape. -/
theorem expand_guardTemplate {c : UndefinedContext} (hPlain : '\\' ∉ c.name) :
    Text.Template.expand c.name c.guardTemplate = .ok c.guardTemplate := by
  refine Text.Template.expand_of_plain ?_
  unfold guardTemplate
  rw [List.mem_append, List.mem_append, not_or, not_or]
  exact ⟨⟨by decide, hPlain⟩, by decide⟩

/-- The patch that guards the first mention with a fallback; none when the script
has no mention. A name that makes no template of the fallback aborts. -/
def guard? (c : UndefinedContext) : Except Abort (Option Patch.LinePatch) :=
  match c.mentionLines with
  | [] => .ok none
  | n :: _ =>
    match Text.Template.expand c.name c.guardTemplate with
    | .error complaint => .error (.failed complaint)
    | .ok guarded =>
      let line := (Text.lines c.script).getD (n - 1) []
      .ok <| some
        { line := n
          expected := line
          fixed := Script.guardFirst c.name guarded line
          explanation := "guarded '".toList ++ c.name ++ "' with a window fallback".toList }

/-- The guarding patch, if there is one. -/
def guardPatch? (c : UndefinedContext) : Option Patch.LinePatch := c.guard?.toOption.join

/-- The patch that declares the variable before the first line that contains its
name; none when no line does. -/
def declarePatch? (c : UndefinedContext) : Option Patch.LinePatch :=
  (((Text.lines c.script).zipIdx 1).find? fun (line, _) => Text.has c.name line).map
    fun (line, n) =>
      { line := n
        expected := line
        fixed := "let ".toList ++ c.name ++ " = \x7b\x7d; // Auto-declared to fix error\n".toList ++
          line
        explanation := "added variable declaration".toList }

/-! ## Reading the answer -/

/-- The patch whose fields can be picked out of a text that is no JSON; none when
too few are found. -/
def recovered? (c : UndefinedContext) (answer : Text) : Except Abort (Option Patch.LinePatch) :=
  let expected := Answer.fieldValue? "original".toList answer
  let replacement := Answer.fieldValue? "replacement".toList answer
  match Answer.fieldValue? "lineNumber".toList answer with
  | none => .ok none
  | some digits =>
    -- a line number alone is too little to act on
    if expected.isNone ∧ replacement.isNone then .ok none
    else
      match Abort.ofReadError (Decimal.readInt digits) with
      | .error e => .error e
      | .ok line =>
        let current := if 0 < line then (Text.lines c.script)[(line - 1).toNat]? else none
        let fallback :=
          "let ".toList ++ c.name ++ " = window.".toList ++ c.name ++ " || \x7b\x7d;".toList
        .ok <| some
          { line := line
            expected := (expected.orElse fun _ => current).getD []
            fixed := replacement.getD fallback
            explanation := "recovered from malformed response".toList }

/-- The patches that are left when an answer proposes none. -/
def withoutProposal (c : UndefinedContext) (answer : Text) :
    Except Abort (List Patch.LinePatch) :=
  match c.recovered? answer with
  | .error e => .error e
  | .ok (some p) => .ok [p]
  | .ok none =>
    match c.guard? with
    | .error e => .error e
    | .ok guarding => .ok ((guarding.orElse fun _ => c.declarePatch?).toList)

/-- The line patches that an answer proposes or leaves. -/
def readAnswer (c : UndefinedContext) (answer : Text) : Except Abort (List Patch.LinePatch) :=
  match Answer.array? false answer with
  | .error e => .error e
  | .ok none => c.withoutProposal answer
  | .ok (some items) =>
    match Answer.linePatches "replacement".toList items with
    | .error e => .error e
    | .ok [] => c.withoutProposal answer
    | .ok patches => .ok patches

end UndefinedContext

end Prompt

end SketchRepair
