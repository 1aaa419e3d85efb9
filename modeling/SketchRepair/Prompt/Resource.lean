import SketchRepair.Answer.Fence
import SketchRepair.Prompt.Request
import SketchRepair.Text.Search

/-!
# SketchRepair — asking for a replacement

A script tag whose source could not be loaded, or a shader material that does not
compile, is shown with the error. The answer is the text to put in its place.
-/

namespace SketchRepair

namespace Prompt

/-! ## Script tags -/

/-- A script tag whose source was not loaded. -/
structure ScriptTagContext where
  tag : Text
  error : Text
  deriving DecidableEq, Repr

namespace ScriptTagContext

def instruction : Text :=
  (
    "You are an expert web developer. When given a broken script tag and error, provide " ++
    "only the corrected script tag with no additional explanation.").toList

def question (c : ScriptTagContext) : Text :=
  "I need to fix this script tag that's failing to load:

`".toList ++
    c.tag ++
    "`

The error is: \"".toList ++
    c.error ++
    "\"

Please provide a working replacement for this script tag. The most common issues are:
1. Typo in the URL
2. Using incorrect CDN domain
3. Incorrect package name (e.g., \"p@1.8.0\" instead of \"p5@1.8.0\")
4. Missing or invalid version number
5. Malformed URL syntax

Give me ONLY the full corrected script tag with no explanation.".toList

def request (c : ScriptTagContext) : Request := ⟨instruction, c.question, 256⟩

/-- A script element without markup inside that begins here. -/
def scriptHere (t : Text) : Option Text :=
  match Text.after? "<script".toList t with
  | none => none
  | some r =>
    match Text.upTo? '>' r with
    | none => none
    | some (_, inner) =>
      (Text.after? "</script>".toList (inner.dropWhile (· ≠ '<'))).map fun rest =>
        t.take (t.length - rest.length)

/-- The first script element of an answer, unless it is the tag that was asked
about. -/
def readAnswer (c : ScriptTagContext) (answer : Text) : Option Text :=
  (Text.find? scriptHere answer).filter (· ≠ c.tag)

end ScriptTagContext

/-! ## Shader materials -/

/-- A shader material that does not compile. -/
structure ShaderContext where
  block : Text
  error : Text
  deriving DecidableEq, Repr

namespace ShaderContext

def instruction : Text :=
  (
    "You are an expert in THREE.js and GLSL shader programming. Fix shader syntax errors " ++
    "and return only the corrected code block.").toList

def question (c : ShaderContext) : Text :=
  "Fix the syntax errors in this THREE.ShaderMaterial block. The browser reports this shader compilation error:

".toList ++
    c.error ++
    "

Here's the ShaderMaterial code with syntax issues:

```javascript
".toList ++
    c.block ++
    "
```

IMPORTANT: Return ONLY the complete, corrected ShaderMaterial block with all syntax errors fixed. Do not add explanations or additional code.".toList

def request (c : ShaderContext) : Request := ⟨instruction, c.question, 2048⟩

/-- The code of an answer, in a fenced block or alone; none when it is empty or
what was asked about. -/
def readAnswer (c : ShaderContext) (answer : Text) : Option Text :=
  let t := Text.trim answer
  let fixed := (Answer.codeBlock? ["javascript".toList, "js".toList] t).getD t
  if fixed.isEmpty ∨ fixed = c.block then none else some fixed

end ShaderContext

end Prompt

end SketchRepair
