import SketchRepair.Document.Element
import SketchRepair.Prompt.StyleSheet
import SketchRepair.Repair.Pass
import SketchRepair.Stylesheet.Findings
import SketchRepair.Stylesheet.Mechanical

/-!
# SketchRepair — faulty style sheets

Style sheets with findings are sent to the oracle, and its answer is taken if it
differs in more than blanks. When there is no answer, or no CSS in it, the sheet
is repaired mechanically. Each sheet that changes is one fix.
-/

namespace SketchRepair

namespace Pass

open Document (Element)

/-- Name of the pass that repairs style sheets. -/
def styleSheetName : Text := "css".toList

def styleFix (location words : Text) (details : List Text) : Record :=
  .fixApplied styleSheetName location words [("issues".toList, .arr (details.map .str))]

/-- The sheet repaired mechanically; none when that changes nothing. -/
def mendSheet (location css : Text) (details : List Text) : Run (Option Text) := do
  let fixed := Stylesheet.mend css
  if Stylesheet.differs css fixed then
    Run.log (styleFix location "applied mechanical CSS fixes".toList details)
    return some fixed
  else return none

/-- The new content of a sheet; none when it stays as it is. -/
def repairSheet (team : Collaborators) (e : Element) (details : List Text) :
    Run (Option Text) := do
  let location := "style at line ".toList ++ Decimal.ofNat e.line
  let context : Prompt.StyleContext := ⟨e.content, details⟩
  match ← Run.ask styleSheetName team.oracle context.request with
  | none => mendSheet location e.content details
  | some answer =>
    match Prompt.StyleContext.readAnswer answer with
    | .noChanges => return none
    | .corrected css =>
      if Stylesheet.differs e.content css then
        Run.log (styleFix location "applied suggested CSS".toList details)
        return some (['\n'] ++ css ++ "\n    ".toList)
      else return none
    | .unusable =>
      Run.log (.patchSkipped styleSheetName (location ++ ": response did not contain CSS".toList))
      mendSheet location e.content details

/-- The new contents of those sheets that change. -/
def repairSheets (team : Collaborators) : List Element → Run (List (Element × Text))
  | [] => return []
  | e :: es => do
    let verdict := Stylesheet.validate e.content
    if verdict.isFaulty then
      match ← repairSheet team e verdict.details with
      | some css => return (e, css) :: (← repairSheets team es)
      | none => repairSheets team es
    else repairSheets team es

def styleSheet : Pass where
  name := styleSheetName
  title := "CssPass".toList
  repair := fun team page => do
    let updates ← repairSheets team (Document.inhabited .style page)
    return (Document.replaceContents updates page, updates.length)

end Pass

end SketchRepair
