import SketchRepair.Document.Element
import SketchRepair.Page.Fault
import SketchRepair.Prompt.Undefined
import SketchRepair.Repair.Loop
import SketchRepair.Repair.Pass
import SketchRepair.Script.Scope

/-!
# SketchRepair — undefined variables

Every script that mentions a variable reported as undefined is patched. If the
script declares it under a condition only, or no answer can be had, a default
declaration goes before the script; otherwise the oracle's lines take the place
of those they name. Each replacement or declaration is one fix.
-/

namespace SketchRepair

namespace Pass

open Document (Element)
open Patch (LinePatch)

/-- Name of the pass that defines undefined variables. -/
def undefinedVariableName : Text := "undefined-variables".toList

/-- A declaration that serves the usual accesses to members. -/
def defaultDeclaration (name comment : Text) : Text :=
  "let ".toList ++ name ++
    " = \x7b uniforms: \x7b value: \x7b x: 0, y: 0 \x7d \x7d \x7d; // ".toList ++ comment

/-- The lines after one replacement: of the line with the number given, or else of
the first occurrence of the expected text; failing both, a declaration is put
before the lines. -/
def replaceLine (name : Text) (lines : List Text) (p : LinePatch) : List Text :=
  if 0 < p.line ∧ p.line ≤ lines.length then lines.set (p.line - 1).toNat p.fixed
  else
    let current := Text.unlines lines
    if !p.expected.isEmpty && Text.has p.expected current then
      Text.lines (Text.replaceFirst p.expected p.fixed current)
    else
      defaultDeclaration name "Auto-declared at top level to fix undefined error".toList :: lines

/-- The script after replacements, one after the other. -/
def replaceLines (name script : Text) (patches : List LinePatch) : Text :=
  Text.unlines (patches.foldl (replaceLine name) (Text.lines script))

/-- The script with a default declaration before it. -/
def declareBefore (name comment script : Text) : Text :=
  defaultDeclaration name comment ++ ['\n'] ++ script

/-- The script with the variable defined, and the number of fixes. -/
def defineIn (team : Collaborators) (v : Page.UndefinedVariable) (script : Text) :
    Run (Text × Nat) := do
  match Script.conditionalDeclaration? v.name script with
  | some _ =>
    let comment := "Added at top level to fix variable scoping issue".toList
    return (declareBefore v.name comment script, 1)
  | none =>
    let context : Prompt.UndefinedContext := ⟨script, v.name, v.message⟩
    match ← Run.ask undefinedVariableName team.oracle context.request with
    | none =>
      let comment := "Added global declaration as fallback fix".toList
      return (declareBefore v.name comment script, 1)
    | some answer =>
      let patches ← Run.ofExcept (context.readAnswer answer)
      if patches.isEmpty then
        Run.log (.patchSkipped undefinedVariableName
          ("no usable fix for '".toList ++ v.name ++ ['\'']))
        return (script, 0)
      else return (replaceLines v.name script patches, patches.length)

/-- The page with the variable defined in one of its scripts, and the number of
fixes; a script that does not mention the variable stays as it is. -/
def defineInElement (team : Collaborators) (v : Page.UndefinedVariable) (e : Element)
    (page : Text) : Run (Text × Nat) := do
  if Script.mentions v.name e.content then
    let (fixed, n) ← defineIn team v e.content
    if n = 0 then return (page, 0)
    else
      Run.log (.fixApplied undefinedVariableName ("script at line ".toList ++ Decimal.ofNat e.line)
        ("fixed undefined variable '".toList ++ v.name ++ ['\''])
        [("fixes".toList, .num (.whole n))])
      return (e.replaceContent fixed page, n)
  else return (page, 0)

/-- Where the turn of a variable has come to. -/
structure TurnState where
  /-- The number of the script that is next. -/
  number : Nat
  page : Text
  /-- The fixes so far. -/
  fixes : Nat
  progress : Progress

/-- The next visit of a turn, which is over when there is no such script. The scripts are
looked up again for every visit. -/
def nextVisit (team : Collaborators) (v : Page.UndefinedVariable) (t : TurnState) :
    TurnState ⊕ (Except Abort (Text × Nat) × Progress) :=
  match (Document.inlineScripts t.page)[t.number]? with
  | none => .inr (.ok (t.page, t.fixes), t.progress)
  | some e =>
    match defineInElement team v e t.page t.progress with
    | (.error cause, s) => .inr (.error cause, s)
    | (.ok (page, n), s) => .inl ⟨t.number + 1, page, t.fixes + n, s⟩

/-- The turn of a variable, from the script number `i` on: the page with the variable
defined, and the number of fixes. Nothing bounds the number of visits: if answers keep
adding scripts, the turn has no outcome. -/
def defineFrom (team : Collaborators) (v : Page.UndefinedVariable) (i : Nat) (page : Text)
    (s : Progress) : Option (Except Abort (Text × Nat) × Progress) :=
  Loop.run (nextVisit team v) ⟨i, page, 0, s⟩

/-- The whole turn of a variable. -/
def defineTurn (team : Collaborators) (v : Page.UndefinedVariable) (page : Text) :
    Run (Text × Nat) :=
  Run.ofLoop (page, 0) (defineFrom team v 0 page)

/-- The page with variables defined one after the other, and the number of fixes. -/
def defineAll (team : Collaborators) : Text → List Page.UndefinedVariable → Run (Text × Nat)
  | page, [] => return (page, 0)
  | page, v :: vs => do
    let (page, n) ← defineTurn team v page
    let (page, m) ← defineAll team page vs
    return (page, n + m)

/-- The first fault of every name. -/
def firstOfEachName : List Page.UndefinedVariable → List Page.UndefinedVariable
  | [] => []
  | v :: vs => v :: (firstOfEachName vs).filter (·.name ≠ v.name)

def undefinedVariable : Pass where
  name := undefinedVariableName
  title := "UndefinedVariablePass".toList
  repair := fun team page => do
    if (Document.inlineScripts page).isEmpty then return (page, 0)
    else
      match team.executor with
      | none =>
        Run.log (.patchSkipped undefinedVariableName "no page executor configured".toList)
        return (page, 0)
      | some executor =>
        let events ← Run.execute executor page none
        let faults ← Run.ofExcept (Abort.ofReadError (Page.undefinedVariables events))
        defineAll team page (firstOfEachName faults)

end Pass

end SketchRepair
