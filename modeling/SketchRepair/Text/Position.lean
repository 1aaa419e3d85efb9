import SketchRepair.Text.Basic

/-!
# SketchRepair — lines and columns

The line and column at which an offset stands, both counted from one.
-/

namespace SketchRepair

namespace Text

/-- The number of the line on which the offset `i` stands. -/
def lineAt (t : Text) (i : Nat) : Nat := (t.take i).count '\n' + 1

/-- The column at which the offset `i` stands in its line. -/
def columnAt (t : Text) (i : Nat) : Nat :=
  ((t.take i).reverse.takeWhile (· ≠ '\n')).length + 1

/-- Line and column of a signed offset: a negative one means the beginning, and
one past the end means the end. -/
def position (t : Text) (i : Int) : Nat × Nat := (lineAt t i.toNat, columnAt t i.toNat)

end Text

end SketchRepair
