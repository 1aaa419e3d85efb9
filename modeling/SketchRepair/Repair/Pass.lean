import SketchRepair.Repair.Run

/-!
# SketchRepair — repair passes

A pass takes the whole page and yields the whole page and the number of fixes. A
pass that counts no fix leaves the page as it was, whatever text it yields.
-/

namespace SketchRepair

structure Pass where
  name : Text
  title : Text
  /-- Are the passes behind it skipped once it has fixed something? The run is ended in its
  name then. -/
  preempts : Bool := false
  /-- Does it concern the page at all? -/
  applies : Text → Bool := fun _ => true
  /-- The page after the pass, and the number of fixes. -/
  repair : Collaborators → Text → Run (Text × Nat)

/-- What became of a pass. -/
structure PassResult where
  name : Text
  page : Text
  fixes : Nat := 0
  skipped : Bool := false
  /-- What aborted it, if anything did. -/
  error : Option Text := none
  deriving DecidableEq, Repr

def PassResult.changed (r : PassResult) : Bool := 0 < r.fixes

namespace Pass

/-- The pass as it is shown to developers. -/
def describe (p : Pass) : Text :=
  p.title ++ "(name=".toList ++ Text.quoted p.name ++ [')']

/-- No time at all, for records of runs that are not timed. -/
def untimed : Number := .real 0

/-- Runs the pass on a page and keeps the record of it. -/
def run (p : Pass) (team : Collaborators) (page : Text) : Run PassResult :=
  if p.applies page then do
    Run.log (.passStarted p.name)
    let (fixed, n) ← p.repair team page
    Run.log (.completed p.name n untimed none)
    return { name := p.name, page := if n = 0 then page else fixed, fixes := n }
  else do
    Run.log (.patchSkipped p.name "not applicable to document".toList)
    return { name := p.name, page := page, skipped := true }

end Pass

end SketchRepair
