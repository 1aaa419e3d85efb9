import SketchRepair.Document.Element
import SketchRepair.Page.Fault
import SketchRepair.Prompt.MissingFunction
import SketchRepair.Repair.Pass

/-!
# SketchRepair — calls of missing functions

For every function reported as missing, every call of it is commented out together
with the block around it. The oracle proposes the comments. A proposal counts only
if every line of it is a comment and the lines it replaces close what they open;
calls without such a proposal are commented out mechanically.
-/

namespace SketchRepair

namespace Pass

open Script (MissingFunction Span)
open Patch (BlockPatch)
open Document (Element)

/-- Name of the pass that comments out calls of missing functions. -/
def missingFunctionName : Text := "not-a-function".toList

/-- The lines that a patch replaces. -/
def replacedText (lines : List Text) (p : BlockPatch) : Text :=
  Text.unlines (Offset.slice (max (p.first - 1) 0) p.last lines)

/-- What speaks against a patch, if anything does. -/
def objection? (lines : List Text) (p : BlockPatch) : Option Text :=
  if !p.isCommented then some "replacement is not fully commented".toList
  else if !Script.isEven (replacedText lines p) then
    some "replaced lines leave braces unbalanced".toList
  else none

/-- The patches that nothing speaks against; the others go on record. -/
def accepted (lines : List Text) : List BlockPatch → Run (List BlockPatch)
  | [] => return []
  | p :: ps => do
    match objection? lines p with
    | some reason =>
      Run.log (.patchSkipped missingFunctionName (p.describe ++ ": ".toList ++ reason))
      accepted lines ps
    | none => return p :: (← accepted lines ps)

/-- The patches that comment out blocks mechanically. -/
def mechanicalPatches (lines : List Text) (blocks : List Span) (f : MissingFunction) :
    List BlockPatch :=
  blocks.map fun s => ⟨s.display.1, s.display.2, Script.commentOut lines s f.reference⟩

/-- The patches to be applied to a script whose calls stand in `blocks`: what the
oracle proposes and is accepted, and mechanical ones for blocks that no accepted
proposal touches. -/
def blockPatches (lines : List Text) (f : MissingFunction) (blocks : List Span)
    (proposed : List BlockPatch) : Run (List BlockPatch) := do
  let chosen ← accepted lines proposed
  -- one shared line with an accepted proposal is enough
  let uncovered := blocks.filter fun s => !(chosen.any fun p => s.overlaps p.span)
  let mechanical ← accepted lines (mechanicalPatches lines uncovered f)
  return chosen ++ mechanical

/-- The script with the calls of a missing function commented out. -/
def commentOutCalls (team : Collaborators) (f : MissingFunction) (script : Text) : Run Text := do
  let lines := Text.lines script
  let calls := f.callLines lines
  if calls.isEmpty then return script
  else
    let blocks := calls.map fun n => Script.blockAround lines (n - 1)
    let context : Prompt.MissingFunctionContext := ⟨script, f, calls.map Int.ofNat, blocks⟩
    let answer ← Run.ask missingFunctionName team.oracle context.request
    let proposed ←
      match answer with
      | some text => Run.ofExcept (Prompt.MissingFunctionContext.readAnswer text)
      | none => pure []
    let patches ← blockPatches lines f blocks proposed
    return (Patch.applyBlockPatches script patches).1

/-- The new contents of those scripts, of the given ones, that call the function. -/
def callingScripts (team : Collaborators) (f : MissingFunction) :
    List Element → Run (List (Element × Text))
  | [] => return []
  | e :: es => do
    let patched ← commentOutCalls team f e.content
    if patched = e.content then callingScripts team f es
    else
      Run.log (.fixApplied missingFunctionName ("script at line ".toList ++ Decimal.ofNat e.line)
        ("commented out calls to ".toList ++ f.reference) [])
      return (e, patched) :: (← callingScripts team f es)

/-- The page with the calls of missing functions commented out, one function after
the other, and the number of scripts changed. -/
def commentOutFunctions (team : Collaborators) :
    Text → List MissingFunction → Run (Text × Nat)
  | page, [] => return (page, 0)
  | page, f :: fs => do
    let updates ← callingScripts team f (Document.inlineScripts page)
    let (page, n) ← commentOutFunctions team (Document.replaceContents updates page) fs
    return (page, n + updates.length)

def missingFunction : Pass where
  name := missingFunctionName
  title := "NotAFunctionPass".toList
  repair := fun team page => do
    match team.executor with
    | none =>
      Run.log (.patchSkipped missingFunctionName "no page executor configured".toList)
      return (page, 0)
    | some executor =>
      let events ← Run.execute executor page none
      commentOutFunctions team page (Page.missingFunctionsOf events)

end Pass

end SketchRepair
