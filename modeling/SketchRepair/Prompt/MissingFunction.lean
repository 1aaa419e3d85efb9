import SketchRepair.Answer.Patches
import SketchRepair.Prompt.Request
import SketchRepair.Script.Block
import SketchRepair.Script.Call

/-!
# SketchRepair — asking about a missing function

Every call is shown inside the block around it, the lines of the block marked with
`*` and the call with `>`. The answer is a list of block patches that comment
those blocks out.
-/

namespace SketchRepair

namespace Prompt

/-- The calls of a missing function in a script. -/
structure MissingFunctionContext where
  script : Text
  function : Script.MissingFunction
  /-- The lines of the calls, counted from one. -/
  callLines : List Int
  blocks : List Script.Span
  deriving DecidableEq, Repr

namespace MissingFunctionContext

def instruction : Text :=
  (
    "You are instructed to comment out entire code blocks containing problematic function " ++
    "calls. You preserve indentation and maintain syntactic correctness by commenting out " ++
    "all lines in the blocks, not just individual lines.").toList

/-- How many lines are shown before and after a block. -/
def radius : Int := 3

/-- The block around a call with its neighbours. -/
def excerpt (lines : List Text) (line : Int) (block : Script.Span) : Text :=
  let first := (block.first - radius).toNat
  let stop := min (lines.length - 1 : Int) (block.last + radius) + 1
  stacked <|
    (List.range' first (stop - first).toNat).map fun (i : Nat) =>
      let marker :=
        if (i : Int) + 1 = line then '>' else if block.contains i then '*' else ' '
      [marker, ' '] ++ Decimal.ofNat (i + 1) ++ ": ".toList ++ lines.getD i []

def shown (lines : List Text) (n : Nat) (line : Int) (block : Script.Span) : Text :=
  let (first, last) := block.display
  "\nOCCURRENCE ".toList ++ Decimal.ofNat n ++ " (Line ".toList ++ Decimal.ofInt line ++
    ", inside block from line ".toList ++ Decimal.ofInt first ++ " to ".toList ++
    Decimal.ofInt last ++ "):\n```javascript\n".toList ++ excerpt lines line block ++
    "\n```\n\nThe block content to comment out is:\n```javascript\n".toList ++
    Text.unlines (Offset.slice block.first (block.last + 1) lines) ++ "\n```\n".toList

def question (c : MissingFunctionContext) : Text :=
  let lines := Text.lines c.script
  let reference := c.function.reference
  let calls := ((c.callLines.zip c.blocks).zipIdx 1).map fun ((line, block), n) =>
    shown lines n line block
  "I need to fix \"".toList ++
    reference ++
    " is not a function\" errors by commenting out ENTIRE CODE BLOCKS.

Here are the problematic blocks where this function is called:

".toList ++
    stacked calls ++
    "

EXTREMELY IMPORTANT INSTRUCTIONS:
1. DO NOT fix or replace functionality
2. COMMENT OUT THE ENTIRE CODE BLOCK for each occurrence
3. For each block, create a single replacement that:
   - Comments out EVERY line in the block
   - Preserves indentation
   - Adds a first comment line explaining what was commented out
4. Maintain syntactic correctness - DO NOT leave unmatched braces or parentheses
5. If a function call is part of a larger statement or within callbacks, comment the ENTIRE block

For each block to replace, provide:
1. The start line number
2. The end line number
3. The complete replacement with ALL LINES commented

Format your response as JSON:
[
  \x7b
    \"startLine\": 123,
    \"endLine\": 128,
    \"replacement\": \"    // ERROR: Block commented out due to missing function ".toList ++
    reference ++
    "\\n    // Original block:\\n    // line 1\\n    // line 2\\n    // etc.\"
  \x7d
]

ONLY return the JSON array with no additional text.".toList

def request (c : MissingFunctionContext) : Request := ⟨instruction, c.question, standardTokens⟩

/-- The block patches that an answer proposes. -/
def readAnswer (answer : Text) : Except Abort (List Patch.BlockPatch) :=
  match Answer.array? true answer with
  | .error e => .error e
  | .ok none => .ok []
  | .ok (some items) => Answer.blockPatches items

end MissingFunctionContext

end Prompt

end SketchRepair
