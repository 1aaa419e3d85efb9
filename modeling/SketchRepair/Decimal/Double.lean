/-!
# SketchRepair — doubles as exact numbers

A finite double is a sign and a magnitude `significand · 2 ^ exponent`. Printing
and rounding work on that exact value, in natural numbers.
-/

namespace SketchRepair

/-- What the bits of a double say. -/
inductive Double where
  | nan
  | infinite (negative : Bool)
  /-- The number `± significand · 2 ^ exponent`. -/
  | finite (negative : Bool) (significand : Nat) (exponent : Int)
  deriving DecidableEq, Repr

namespace Double

def ofFloat (x : Float) : Double :=
  let bits : Nat := x.toBits.toNat
  let negative := bits / Nat.pow 2 63 == 1
  let field : Nat := bits / Nat.pow 2 52 % Nat.pow 2 11
  let fraction : Nat := bits % Nat.pow 2 52
  if field = 2047 then
    if fraction = 0 then .infinite negative else .nan
  else if field = 0 then .finite negative fraction (-1074)
  else .finite negative (fraction + Nat.pow 2 52) ((field : Int) - 1075)

/-- Numerator and denominator of `significand · 2 ^ exponent`. -/
def ratio (significand : Nat) (exponent : Int) : Nat × Nat :=
  if exponent < 0 then (significand, Nat.pow 2 (-exponent).toNat)
  else (significand * Nat.pow 2 exponent.toNat, 1)

/-- The whole part of a finite double, its fraction cut off. -/
def truncate (negative : Bool) (significand : Nat) (exponent : Int) : Int :=
  let (num, den) := ratio significand exponent
  if negative then -((num / den : Nat) : Int) else (num / den : Nat)

end Double

end SketchRepair
