import SketchRepair.Answer.Fence
import SketchRepair.Prompt.Request

/-!
# SketchRepair — asking about a style sheet

The sheet is shown with numbered lines and the findings on it. The answer is the
whole sheet corrected, or a word that says that nothing is to be changed.
-/

namespace SketchRepair

namespace Prompt

/-- A style sheet and what was found on it. -/
structure StyleContext where
  css : Text
  details : List Text
  deriving DecidableEq, Repr

/-- What an answer about a style sheet says. -/
inductive StyleAnswer where
  | noChanges
  | corrected (css : Text)
  | unusable
  deriving DecidableEq, Repr

namespace StyleContext

def instruction : Text :=
  (
    "You are an expert CSS developer who specializes in fixing syntax errors in CSS code. " ++
    "You provide complete, fixed CSS code that maintains the original styling intent " ++
    "while fixing all syntax issues. You only make changes when actual errors exist.").toList

/-- The word that says that nothing is to be changed. -/
def noChangesWord : Text := "NO_CHANGES_NEEDED".toList

/-- A line with its number, which is set in three columns at least. -/
def numbered (line : Text) (n : Nat) : Text :=
  let digits := Decimal.ofNat n
  List.replicate (3 - digits.length) ' ' ++ digits ++ ": ".toList ++ line

def question (c : StyleContext) : Text :=
  let sheet := stacked (((Text.lines c.css).zipIdx 1).map fun (line, n) => numbered line n)
  "I have CSS code in a style tag with potential syntax issues. Please help me fix these issues.

Here's the CSS content:
```css
".toList ++
    sheet ++
    "
```

Detected issues: ".toList ++
    Text.joinWith ", ".toList c.details ++
    "

IMPORTANT INSTRUCTIONS:
1. FIX ONLY ACTUAL SYNTAX ERRORS. If the CSS is already correct, say \"".toList ++
    noChangesWord ++
    "\".
2. Fix syntax errors (missing semicolons, properties, invalid values, etc.)
3. Keep the same selectors and general styling intent
4. Provide the COMPLETE fixed CSS block
5. Do not add new styles or remove intentional styles
6. Format the CSS consistently
7. If a property is missing a name before the colon, use an appropriate property name based on context

RESPOND WITH JUST THE FIXED CSS CONTENT, starting with the first selector and ending with the last closing brace. If no changes are needed, just respond with \"".toList ++
    noChangesWord ++
    "\".".toList

def request (c : StyleContext) : Request := ⟨instruction, c.question, standardTokens⟩

/-- May a line of CSS begin with the character? -/
def opensCssLine (c : Char) : Bool :=
  isBlank c || c.isAlphanum || c = '{' || c = '}' || c = '.' || c = '#' || c = '@' || c = '*' ||
    c = ':' || c = '-'

/-- Does the line begin like no line of CSS? -/
def isForeign (line : Text) : Bool := line.head?.any fun c => !opensCssLine c

/-- The lines without the foreign ones. A foreign line goes with the line feed
behind it, so of a foreign last line an empty one stays. -/
def dropForeign : List Text → List Text
  | [] => []
  -- no line feed stands behind the last line
  | [l] => if isForeign l then [[]] else [l]
  | l :: ls => if isForeign l then dropForeign ls else l :: dropForeign ls

/-- The sheet that an answer holds: its fenced block, or all of it, without lines
that cannot belong to a sheet. -/
def cleaned (answer : Text) : Text :=
  let body := (Answer.codeBlock? ["css".toList] answer).getD answer
  Text.trim (Text.unlines (dropForeign (Text.lines body)))

def readAnswer (answer : Text) : StyleAnswer :=
  let t := Text.trim answer
  if t = noChangesWord then .noChanges
  else if !t.contains '{' && !t.contains '}' then .unusable
  else .corrected (cleaned t)

end StyleContext

end Prompt

end SketchRepair
