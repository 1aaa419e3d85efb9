import SketchRepair.Json.Value
import SketchRepair.Script.Block

/-!
# SketchRepair — patches of line ranges

A block patch replaces a range of lines, each new line indented like the first
old one. Of several patches those further down go first, so that the numbers of
the others stay right; a patch outside the script, or one that overlaps a patch
already applied, is dropped.
-/

namespace SketchRepair

namespace Patch

open Script (Span)

/-- A replacement for a range of lines. -/
structure BlockPatch where
  /-- First line, counted from one. -/
  first : Int
  last : Int
  replacement : Text
  deriving DecidableEq, Repr

namespace BlockPatch

/-- The patch that a JSON object describes. None when the value is no such object;
an error when a line is infinite. -/
def ofJson? (v : Json) : Except Json.WholeError (Option BlockPatch) :=
  match v with
  | .obj _ =>
    match (v.field "startLine".toList).toWhole with
    | .error .infinite => .error .infinite
    | .error .notNumeric => .ok none
    | .ok first =>
      match (v.field "endLine".toList).toWhole with
      | .error .infinite => .error .infinite
      | .error .notNumeric => .ok none
      | .ok last =>
        let replacement := v.field "replacement".toList
        .ok (if replacement.isEmpty then none else some ⟨first, last, replacement.text⟩)
  | _ => .ok none

def describe (p : BlockPatch) : Text :=
  "lines ".toList ++ Decimal.ofInt p.first ++ ['-'] ++ Decimal.ofInt p.last

/-- The range, counted from zero. -/
def span (p : BlockPatch) : Span := ⟨p.first - 1, p.last - 1⟩

/-- Is every line of the replacement a comment? -/
def isCommented (p : BlockPatch) : Bool :=
  (Text.lines p.replacement).all fun l => Text.startsWith ['/', '/'] (Text.trim l)

end BlockPatch

/-- The lines with the range of a patch replaced. -/
def replaceRange (lines : List Text) (p : BlockPatch) : List Text :=
  let i := p.span.first.toNat
  let indent := Text.indentation (lines.getD i [])
  lines.take i ++ (Text.lines p.replacement).map (indent ++ ·) ++ lines.drop p.last.toNat

/-- Applies patches in the given order to lines, where the ranges `taken` are
already replaced; answers with the lines and the patches applied. -/
def applyInOrder : (taken : List Span) → List Text → List BlockPatch → List Text × List BlockPatch
  | _, lines, [] => (lines, [])
  | taken, lines, p :: ps =>
    -- everything above the ranges taken so far still has its old number
    if (1 ≤ p.first ∧ p.first ≤ p.last ∧ p.last ≤ lines.length) ∧
        !(taken.any fun s => p.span.overlaps s) then
      let (done, applied) := applyInOrder (taken ++ [p.span]) (replaceRange lines p) ps
      (done, p :: applied)
    else applyInOrder taken lines ps

/-- The script with block patches applied from the bottom up, and the patches
applied. -/
def applyBlockPatches (script : Text) (patches : List BlockPatch) : Text × List BlockPatch :=
  let ordered := patches.mergeSort fun a b => b.first ≤ a.first
  let (lines, applied) := applyInOrder [] (Text.lines script) ordered
  (Text.unlines lines, applied)

end Patch

end SketchRepair
