import SketchRepair.Decimal.Whole

/-!
# SketchRepair — reading a double

The double that a decimal stands for is the one nearest to it. Decimals that are
far too small for a double give zero, those far too large an infinity.
-/

namespace SketchRepair

namespace Decimal

/-- The double nearest to `digits · 10 ^ power`. -/
def nearest (negative : Bool) (digits : List Nat) (power : Int) : Float :=
  let m := ofDigits digits
  -- far outside the range of doubles the power of ten is never formed
  let size : Int := (Nat.toDigits 10 m).length + power
  let x : Float :=
    if m = 0 ∨ size < -400 then 0
    else if 400 < size then 1 / 0
    else if power < 0 then Float.ofScientific m true (-power).toNat
    else Float.ofScientific m false power.toNat
  if negative then -x else x

end Decimal

end SketchRepair
