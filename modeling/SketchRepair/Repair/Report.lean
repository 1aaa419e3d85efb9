import SketchRepair.Repair.Pass

/-!
# SketchRepair — the report of a run

What a run made of the page: the results of its passes in order, the final page,
and the pass that ended the run early, if one did. The tally by pass keeps the
names in the order of their first result; of two results under one name the later
one counts there, while the total counts both.
-/

namespace SketchRepair

/-- The report of a run. -/
structure Report where
  before : Text
  page : Text
  passes : List PassResult
  /-- The pass that made the rest be skipped. -/
  preemptedBy : Option Text
  deriving DecidableEq, Repr

namespace Report

def totalFixes (r : Report) : Nat := (r.passes.map (·.fixes)).foldr (· + ·) 0

/-- A tally with a count noted under a name. -/
def note (name : Text) (n : Nat) : List (Text × Nat) → List (Text × Nat)
  | [] => [(name, n)]
  | (m, k) :: rest => if m = name then (m, n) :: rest else (m, k) :: note name n rest

/-- The fixes by pass, of those that were not skipped. -/
def perPass (r : Report) : List (Text × Nat) :=
  (r.passes.filter (!·.skipped)).foldl (fun tally p => note p.name p.fixes tally) []

/-- The passes that were aborted for a reason with a text, each with its reason. -/
def errors (r : Report) : List Text :=
  r.passes.filterMap fun p =>
    (p.error.filter (!·.isEmpty)).map fun e => p.name ++ ": ".toList ++ e

/-- The fixes under one name. -/
def fixesFor (r : Report) (name : Text) : Nat :=
  ((r.passes.filter (·.name = name)).map (·.fixes)).foldr (· + ·) 0

def describe (r : Report) : Text :=
  if r.totalFixes = 0 then "No issues found".toList
  else
    let parts := (r.perPass.filter (·.2 ≠ 0)).map fun (name, n) => Decimal.ofNat n ++ [' '] ++ name
    "Fixed ".toList ++ Decimal.ofNat r.totalFixes ++ " issues (".toList ++
      Text.joinWith ", ".toList parts ++ [')']

end Report

end SketchRepair
