import SketchRepair.Text.Basic

/-!
# SketchRepair — similarity of two lines

How much of the shorter text is made of characters of the longer one, measured
against the length of the longer one. Order and repetition are ignored.
-/

namespace SketchRepair

namespace Patch

/-- The longer and the shorter of two texts; the second counts as the longer one
when they are equally long. -/
def longerFirst (a b : Text) : Text × Text := if b.length < a.length then (a, b) else (b, a)

/-- The number of characters of the shorter text that occur in the longer one. -/
def sharedCharacters (a b : Text) : Nat :=
  let (longer, shorter) := longerFirst a b
  shorter.countP longer.contains

/-- The similarity of two texts, between zero and one; two empty texts are alike. -/
def similarity (a b : Text) : Float :=
  let (longer, _) := longerFirst a b
  if longer.isEmpty then 1 else (sharedCharacters a b).toFloat / longer.length.toFloat

end Patch

end SketchRepair
