import SketchRepair.Text.Basic
import SketchRepair.Decimal.Whole

/-!
# SketchRepair — questions to the oracle

A question consists of a standing instruction, the question proper, and a bound
on the length of the answer. Scripts are shown in excerpts with numbered lines.
-/

namespace SketchRepair

/-- A question to the suggestion oracle. -/
structure Request where
  system : Text
  user : Text
  /-- Bound on the answer, in tokens. -/
  maxTokens : Nat
  deriving DecidableEq, Repr

namespace Prompt

def standardTokens : Nat := 1024

/-- The lines within `radius` of line `target`, each with its number, counted from
one. The target line has the marker before it, the others spaces. -/
def numberedContext (lines : List Text) (target radius : Int) (marker separator : Text) : Text :=
  let first := (target - radius).toNat
  let stop := min (lines.length : Int) (target + radius)
  Text.unlines <|
    (List.range' first (stop - first).toNat).map fun (i : Nat) =>
      (if ((i + 1 : Nat) : Int) = target then marker else List.replicate marker.length ' ') ++
        separator ++ Decimal.ofNat (i + 1) ++ ": ".toList ++ lines.getD i []

/-- Texts, each on lines of its own. -/
def stacked (blocks : List Text) : Text := Text.joinWith ['\n'] blocks

end Prompt

end SketchRepair
