import SketchRepair.Decimal.Double
import SketchRepair.Decimal.Whole

/-!
# SketchRepair — a fixed number of decimal places

Rounding the exact value of a double to two decimal places. A tie goes to the
even neighbour; ties are rare, because few doubles end in exactly a half.
-/

namespace SketchRepair

namespace Decimal

/-- The whole number nearest to `num / den`; a half goes to the even neighbour. -/
def roundRatio (num den : Nat) : Nat :=
  let q := num / den
  let r := num % den
  if 2 * r < den then q
  else if den < 2 * r then q + 1
  else if q % 2 = 0 then q
  else q + 1

/-- The hundredths of a magnitude, rounded. -/
def hundredths (significand : Nat) (exponent : Int) : Nat :=
  let (num, den) := Double.ratio significand exponent
  roundRatio (num * 100) den

/-- A double with two decimal places. -/
def twoPlaces (x : Float) : Text :=
  match Double.ofFloat x with
  | .nan => "nan".toList
  | .infinite negative => if negative then "-inf".toList else "inf".toList
  | .finite negative m e =>
    let h := hundredths m e
    let cents := ofNat (h % 100)
    (if negative then ['-'] else []) ++ ofNat (h / 100) ++ ['.'] ++
      List.replicate (2 - cents.length) '0' ++ cents

/-- The double nearest to a double's value at two decimal places. -/
def roundTwoPlaces (x : Float) : Float :=
  match Double.ofFloat x with
  | .finite negative m e =>
    if 0 ≤ e then x
    else
      let y := Float.ofScientific (hundredths m e) true 2
      if negative then -y else y
  | _ => x

end Decimal

end SketchRepair
