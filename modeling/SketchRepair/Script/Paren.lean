import SketchRepair.Decimal.Whole
import SketchRepair.Text.Position

/-!
# SketchRepair — unmatched parentheses

A scan of a script with the stack of parentheses that are open. Strings and
comments are scanned like everything else. Shader code is exempt, because it
lives in template strings where the scan would misfire.
-/

namespace SketchRepair

namespace Script

/-- What is wrong with a parenthesis. -/
inductive ParenFault where
  /-- It is opened and never closed. -/
  | missingClose
  | extraClose
  deriving DecidableEq, Repr

namespace ParenFault

def name : ParenFault → Text
  | missingClose => "missing-close".toList
  | extraClose => "extra-close".toList

def description : ParenFault → Text
  | missingClose => "Missing closing parenthesis".toList
  | extraClose => "Extra closing parenthesis".toList

def ofName? (name : Text) : Option ParenFault :=
  [missingClose, extraClose].find? (·.name = name)

end ParenFault

/-- An unmatched parenthesis of a script. -/
structure ParenIssue where
  fault : ParenFault
  /-- Offset in the script; a negative one counts from the end. -/
  index : Int
  deriving DecidableEq, Repr

def ParenIssue.describe (issue : ParenIssue) : Text :=
  issue.fault.name ++ " at offset ".toList ++ Decimal.ofInt issue.index

/-- Texts that mark a script as shader code. -/
def shaderMarkers : List Text :=
  ["ShaderMaterial".toList, "vertexShader".toList, "fragmentShader".toList, "gl_FragColor".toList,
    "uniform ".toList, "varying ".toList]

/-- Is the script shader code? -/
def isShader (source : Text) : Bool := Text.hasAny shaderMarkers source

/-- The unmatched parentheses of the text from offset `i` on, where those at the
offsets `opened` are open, the innermost first. -/
def unmatchedFrom : Nat → List Nat → Text → List ParenIssue
  | _, opened, [] => opened.reverse.map fun (j : Nat) => ⟨.missingClose, (j : Int)⟩
  | i, opened, c :: t =>
    if c = '(' then unmatchedFrom (i + 1) (i :: opened) t
    else if c = ')' then
      match opened with
      | [] => ⟨.extraClose, i⟩ :: unmatchedFrom (i + 1) [] t
      | _ :: outer => unmatchedFrom (i + 1) outer t
    else unmatchedFrom (i + 1) opened t

def parenIssues (source : Text) : List ParenIssue :=
  if isShader source then [] else unmatchedFrom 0 [] source

end Script

end SketchRepair
