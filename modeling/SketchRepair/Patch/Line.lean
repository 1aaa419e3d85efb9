import SketchRepair.Json.Value
import SketchRepair.Patch.Similarity
import SketchRepair.Script.Paren
import SketchRepair.Text.Blank

/-!
# SketchRepair — patches of single lines

A line patch says what a line should hold and what it should hold instead. It is
applied only if the line shows what it expects: the expected text itself, or a
text similar enough to overwrite the line, or an unmatched parenthesis that can
be mended on the spot. Patches that fit in none of these ways are reported and
left out.
-/

namespace SketchRepair

namespace Patch

/-- A replacement on one line of a script. -/
structure LinePatch where
  line : Int
  /-- Text expected on the line. -/
  expected : Text
  fixed : Text
  /-- What the patch is for; never applied. -/
  explanation : Text := []
  deriving DecidableEq, Repr

namespace LinePatch

/-- The patch that a JSON object describes, its new text under the name
`fixedName`. None when the value is no such object; an error when the line is
infinite. -/
def ofJson? (fixedName : Text) (v : Json) : Except Json.WholeError (Option LinePatch) :=
  match v with
  | .obj _ =>
    match (v.field "lineNumber".toList).toWhole with
    | .error .infinite => .error .infinite
    | .error .notNumeric => .ok none
    | .ok line =>
      match v.field fixedName with
      | .null => .ok none
      | fixed =>
        let filled (name : Text) : Text :=
          let w := v.field name
          if w.isEmpty then [] else w.text
        .ok (some ⟨line, filled "original".toList, fixed.text, filled "explanation".toList⟩)
  | _ => .ok none

def describe (p : LinePatch) : Text :=
  "line ".toList ++ Decimal.ofInt p.line ++ ": ".toList ++
    (if p.explanation.isEmpty then "replace text".toList else p.explanation)

end LinePatch

/-- Why a patch was left out. -/
inductive Rejection where
  | outOfRange
  /-- The line does not show the expected text, and is only this similar to it. -/
  | notFound (similarity : Float)

def Rejection.message : Rejection → Text
  | outOfRange => "line number out of range".toList
  | notFound s => "original text not found (similarity ".toList ++ Decimal.twoPlaces s ++ [')']

/-! ## One patch -/

/-- The text without its last closing parenthesis. -/
def dropLastClose (line : Text) : Text :=
  match Text.upTo? ')' line.reverse with
  | some (behind, before) => before.reverse ++ behind.reverse
  | none => line

/-- A line with an unmatched parenthesis, mended on the spot: the missing one goes
before the first `;`, or to the end of a line that does not end with `;`; of too
many the last is dropped. -/
def mendLine (line : Text) : Script.ParenFault → Text
  | .missingClose =>
    if Text.endsWith [';'] (Text.trim line) then Text.replaceFirst [';'] [')', ';'] line
    else line ++ [')']
  | .extraClose => dropLastClose line

/-- The line after a patch, given the similarity a line must exceed and the fault
that the line is known to have. -/
def patchLine (threshold : Float) (fault : Option Script.ParenFault) (p : LinePatch)
    (line : Text) : Except Rejection Text :=
  if !p.expected.isEmpty && Text.has p.expected line then
    .ok (Text.replaceFirst p.expected p.fixed line)
  else if threshold < similarity line p.expected then .ok p.fixed
  else
    match fault with
    | some f => .ok (mendLine line f)
    | none => .error (.notFound (similarity line p.expected))

/-- The fault of the first issue on a line. -/
def faultOn (source : Text) (issues : List Script.ParenIssue) (line : Int) :
    Option Script.ParenFault :=
  (issues.find? fun i => ((Text.position source i.index).1 : Int) = line).map (·.fault)

/-! ## A list of patches -/

/-- What became of a list of patches. -/
structure LineOutcome where
  lines : List Text
  /-- The patches applied, in order. -/
  applied : List LinePatch
  /-- The patches left out, in order, and why. -/
  failed : List (LinePatch × Rejection)

/-- Applies patches one after the other to lines, where `faults` tells the known
faults of the lines. -/
def applyPatches (threshold : Float) (faults : Int → Option Script.ParenFault) :
    List Text → List LinePatch → LineOutcome
  | lines, [] => ⟨lines, [], []⟩
  | lines, p :: ps =>
    if 1 ≤ p.line ∧ p.line ≤ lines.length then
      let i := (p.line - 1).toNat
      match patchLine threshold (faults p.line) p (lines.getD i []) with
      | .ok line =>
        let rest := applyPatches threshold faults (lines.set i line) ps
        { rest with applied := p :: rest.applied }
      | .error why =>
        let rest := applyPatches threshold faults lines ps
        { rest with failed := (p, why) :: rest.failed }
    else
      let rest := applyPatches threshold faults lines ps
      { rest with failed := (p, .outOfRange) :: rest.failed }

/-- The outcome of applying patches to a script whose unmatched parentheses are
`issues`. -/
def applyLinePatches (threshold : Float) (source : Text) (patches : List LinePatch)
    (issues : List Script.ParenIssue) : LineOutcome :=
  applyPatches threshold (faultOn source issues) (Text.lines source) patches

namespace LineOutcome

def isSuccess (o : LineOutcome) : Bool := !o.applied.isEmpty

def content (o : LineOutcome) : Text := Text.unlines o.lines

def describe (o : LineOutcome) : Text :=
  Text.unlines <|
    ("Applied: ".toList ++ Decimal.ofNat o.applied.length ++ ", Failed: ".toList ++
        Decimal.ofNat o.failed.length) ::
      (o.applied.map fun p => "  + ".toList ++ p.describe) ++
      (o.failed.map fun (p, why) => "  - ".toList ++ p.describe ++ ": ".toList ++ why.message)

end LineOutcome

end Patch

end SketchRepair
