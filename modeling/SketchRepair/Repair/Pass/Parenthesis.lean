import SketchRepair.Document.Element
import SketchRepair.Prompt.Paren
import SketchRepair.Repair.Pass
import SketchRepair.Script.ParenRepair

/-!
# SketchRepair — unmatched parentheses of scripts

The oracle is asked for patches of the lines with unmatched parentheses. When none
of its patches can be applied, every issue is mended mechanically.
-/

namespace SketchRepair

namespace Pass

open Document (Element)

/-- Name of the pass that matches parentheses. -/
def parenthesisName : Text := "parentheses".toList

/-- A line is overwritten when it is more similar to the expected text than this. -/
def similarityThreshold : Float := 0.7

/-- Puts the patches that were left out on record. -/
def logFailed : List (Patch.LinePatch × Patch.Rejection) → Run Unit
  | [] => return ()
  | (p, why) :: rest => do
    Run.log (.patchSkipped parenthesisName (p.describe ++ ": ".toList ++ why.message))
    logFailed rest

/-- A script with issues after repair, and the number of fixes. -/
def matchIn (team : Collaborators) (script : Text) (issues : List Script.ParenIssue) :
    Run (Text × Nat) := do
  let mechanical := Script.mendAndCount script issues
  let context : Prompt.ParenContext := ⟨script, issues⟩
  match ← Run.ask parenthesisName team.oracle context.request with
  | none => return mechanical
  | some answer =>
    let patches ← Run.ofExcept (Prompt.ParenContext.readAnswer answer)
    let outcome := Patch.applyLinePatches similarityThreshold script patches issues
    logFailed outcome.failed
    if outcome.isSuccess then return (outcome.content, outcome.applied.length)
    else return mechanical

/-- The new contents of those scripts that have issues, and the number of fixes. -/
def matchAll (team : Collaborators) : List Element → Run (List (Element × Text) × Nat)
  | [] => return ([], 0)
  | e :: es => do
    let issues := Script.parenIssues e.content
    if issues.isEmpty then matchAll team es
    else
      let (fixed, n) ← matchIn team e.content issues
      if n = 0 then matchAll team es
      else
        Run.log (.fixApplied parenthesisName ("script at line ".toList ++ Decimal.ofNat e.line)
          ("fixed ".toList ++ Decimal.ofNat n ++ " parenthesis issue(s)".toList)
          [("issues".toList, .arr (issues.map fun i => .str i.describe))])
        let (updates, m) ← matchAll team es
        return ((e, fixed) :: updates, n + m)

def parenthesis : Pass where
  name := parenthesisName
  title := "ParenthesisPass".toList
  repair := fun team page => do
    let (updates, n) ← matchAll team (Document.inlineScripts page)
    return (Document.replaceContents updates page, n)

end Pass

end SketchRepair
