import SketchRepair.Answer.Patches
import SketchRepair.Prompt.Request
import SketchRepair.Script.Paren

/-!
# SketchRepair — asking about parentheses

Every unmatched parenthesis is shown with the five lines before and after it. The
answer is a list of line patches.
-/

namespace SketchRepair

namespace Prompt

/-- A script and its unmatched parentheses. -/
structure ParenContext where
  script : Text
  issues : List Script.ParenIssue
  deriving DecidableEq, Repr

namespace ParenContext

def instruction : Text :=
  (
    "You are an expert JavaScript developer specializing in fixing syntax errors in P5.js " ++
    "code. You provide precise, targeted fixes for code issues without rewriting entire " ++
    "blocks of code.").toList

/-- How many lines are shown before and after an issue. -/
def radius : Int := 5

def place (script : Text) (issue : Script.ParenIssue) : Text :=
  let (line, column) := Text.position script issue.index
  issue.fault.name ++ " at line ".toList ++ Decimal.ofNat line ++ ", column ".toList ++
    Decimal.ofNat column

/-- The line of the list of issues. -/
def listed (script : Text) (issue : Script.ParenIssue) : Text :=
  "- ".toList ++ place script issue ++ ": ".toList ++ issue.fault.description

def excerpt (script : Text) (issue : Script.ParenIssue) : Text :=
  numberedContext (Text.lines script) (Text.position script issue.index).1 radius "> ".toList []

/-- The excerpt around an issue, under a heading. -/
def shown (script : Text) (issue : Script.ParenIssue) : Text :=
  "--- Context for ".toList ++ place script issue ++ " ---\n".toList ++ excerpt script issue ++
    ['\n']

def question (c : ParenContext) : Text :=
  "I have a JavaScript file with ".toList ++
    Decimal.ofNat c.issues.length ++
    " parentheses issues. Please help me fix these issues WITHOUT rewriting the entire file - just apply targeted fixes.

Issues detected:
".toList ++
    stacked (c.issues.map (listed c.script)) ++
    "

Here's the code context:

".toList ++
    stacked (c.issues.map (shown c.script)) ++
    "

IMPORTANT INSTRUCTIONS:
1. DO NOT rewrite the entire file - only provide specific fixes for each issue
2. For each fix, tell me:
   - The exact line number that needs to be fixed
   - The exact string that needs to be replaced
   - The exact string to replace it with
3. Format your answer as a JSON array of fix objects like this:
[
  \x7b
    \"lineNumber\": 42,
    \"original\": \"createFish(p.random(p.width), p.random(p.height), p.floor(p.random(3));\",
    \"fixed\": \"createFish(p.random(p.width), p.random(p.height), p.floor(p.random(3)));\",
    \"explanation\": \"Added missing closing parenthesis after p.random(3)\"
  \x7d
]
4. If a line has multiple issues, provide one fix that addresses all of them in a single replacement
5. Be precise about where to add or remove parentheses - consider the context carefully
6. DO NOT include explanations in the JSON, only the fix objects in the array".toList

def request (c : ParenContext) : Request := ⟨instruction, c.question, standardTokens⟩

/-- The line patches that an answer proposes. -/
def readAnswer (answer : Text) : Except Abort (List Patch.LinePatch) :=
  match Answer.array? false answer with
  | .error e => .error e
  | .ok none => .ok []
  | .ok (some items) => Answer.linePatches "fixed".toList items

end ParenContext

end Prompt

end SketchRepair
