import SketchRepair.Repair.Pass.Markup
import SketchRepair.Repair.Pass.MissingFunction
import SketchRepair.Repair.Pass.Parenthesis
import SketchRepair.Repair.Pass.ScriptTag
import SketchRepair.Repair.Pass.Shader
import SketchRepair.Repair.Pass.StyleSheet
import SketchRepair.Repair.Pass.UndefinedVariable
import SketchRepair.Repair.Report

/-!
# SketchRepair — the pipeline

The passes run in order, each on the page that the one before left. A pass that is
aborted counts no fix and leaves the page as it was, and the run goes on. Once a
pass that preempts the rest has fixed something, the rest is skipped; a pass without
a name preempts nothing.
-/

namespace SketchRepair

namespace Pipeline

/-- The standard passes, in order. -/
def standard : List Pass :=
  [Pass.markup, Pass.styleTags, Pass.scriptTag, Pass.missingFunction, Pass.styleSheet,
    Pass.undefinedVariable, Pass.parenthesis, Pass.shader]

def pass? (name : Text) : Option Pass := standard.find? (·.name = name)

/-- The place of a pass among the standard passes. -/
def order? (name : Text) : Option Nat := standard.findIdx? (·.name = name)

/-- Runs a pass; when it is aborted, that goes on record and into the result. -/
def runGuarded (p : Pass) (team : Collaborators) (page : Text) : Run PassResult := fun progress =>
  match p.run team page progress with
  | (.ok result, progress) => (.ok result, progress)
  | (.error cause, progress) =>
    (do
      Run.log (.completed p.name 0 Pass.untimed (some cause.message))
      return { name := p.name, page := page, error := some cause.message } :
      Run PassResult) progress

/-- Has a pass ended the run? Its name is what tells, so the empty name of a pass does
not. -/
def isEnded (preempted : Option Text) : Bool := preempted.any (!·.isEmpty)

/-- The results of passes on a page, where `preempted` is the pass that ended the
run before them, if one did; and the pass that has ended it behind them. -/
def runPasses (team : Collaborators) (preempted : Option Text) :
    Text → List Pass → Run (List PassResult × Option Text)
  | _, [] => return ([], preempted)
  | page, p :: ps =>
    if isEnded preempted then do
      let (results, preempted) ← runPasses team preempted page ps
      return ({ name := p.name, page := page, skipped := true } :: results, preempted)
    else do
      let result ← runGuarded p team page
      -- the rest is skipped only behind a fix, not behind a mere visit
      let preempted := if result.fixes ≠ 0 ∧ p.preempts then some p.name else preempted
      let (results, preempted) ← runPasses team preempted result.page ps
      return (result :: results, preempted)

/-- Runs passes on a page and keeps a summary on record. -/
def run (passes : List Pass) (team : Collaborators) (page : Text) : Run Report := do
  let (results, preempted) ← runPasses team none page passes
  let last := (results.getLast?.map (·.page)).getD page
  let report : Report := ⟨page, last, results, preempted⟩
  Run.log (.runSummary report.totalFixes (report.perPass.map fun (name, n) => (name, (n : Int))))
  return report

end Pipeline

end SketchRepair
