import SketchRepair.Decimal.Double
import SketchRepair.Decimal.Whole

/-!
# SketchRepair — shortest decimal text of a double

A double is written with the fewest digits that no other double is nearer to,
and among texts of that length with the one nearest to its value. The reals
that read back as `m · 2 ^ q` form an interval around it, which contains its two
ends exactly when `m` is even. On the grid of decimals with `n` digits the only
candidates are the two neighbours of the value, so the shortest text is found
by testing them for `n = 1, 2, …, 17`.
-/

namespace SketchRepair

namespace Decimal

/-- The interval of numbers that read back as one double, as numerators over one
denominator, and whether its ends belong to it. -/
structure ReadBack where
  lower : Nat
  value : Nat
  upper : Nat
  den : Nat
  /-- Do the ends read back too? -/
  closed : Bool

/-- The numbers that read back as `significand · 2 ^ exponent`. Below a power of
two the doubles lie twice as close, unless they are subnormal. -/
def readBack (significand : Nat) (exponent : Int) : ReadBack :=
  -- in quarters of a unit, so that the ends of the interval are whole
  let (num, den) := Double.ratio (4 * significand) exponent
  let (unit, _) := Double.ratio 1 exponent
  let narrow := significand = Nat.pow 2 52 ∧ -1074 < exponent
  { lower := num - (if narrow then unit else 2 * unit)
    value := num
    upper := num + 2 * unit
    den := 4 * den
    closed := significand % 2 = 0 }

/-- Does `digits · 10 ^ power` lie in the interval? -/
def ReadBack.contains (b : ReadBack) (digits : Nat) (power : Int) : Bool :=
  let (x, d) :=
    if power < 0 then (digits, Nat.pow 10 (-power).toNat)
    else (digits * Nat.pow 10 power.toNat, 1)
  let lhs := x * b.den
  if b.closed then b.lower * d ≤ lhs && lhs ≤ b.upper * d
  else b.lower * d < lhs && lhs < b.upper * d

/-- The least exponent `k` with `num / den < 10 ^ k`, searched upwards. -/
def magnitude (num den : Nat) : Int :=
  let guess : Int := (Nat.toDigits 10 num).length - (Nat.toDigits 10 den).length
  let below (k : Int) : Bool :=
    if k < 0 then num * Nat.pow 10 (-k).toNat < den else num < den * Nat.pow 10 k.toNat
  if below guess then (if below (guess - 1) then guess - 1 else guess) else guess + 1

/-- The neighbour of the value on the grid of decimals with `n` digits that lies
in the interval and is nearest to the value. -/
def ReadBack.candidate? (b : ReadBack) (k : Int) (n : Nat) : Option (Nat × Int) :=
  let power := k - n
  let (num, den) :=
    if power < 0 then (b.value * Nat.pow 10 (-power).toNat, b.den)
    else (b.value, b.den * Nat.pow 10 power.toNat)
  let low := num / den
  let r := num % den
  -- of two neighbours at the same distance the even one is tried first
  let nearLow := 2 * r < den ∨ (2 * r = den ∧ low % 2 = 0)
  let first := if nearLow then low else low + 1
  let second := if nearLow then low + 1 else low
  if first ≠ 0 ∧ b.contains first power then some (first, power)
  else if second ≠ 0 ∧ b.contains second power then some (second, power)
  else none

/-- The shortest decimal that reads back as a positive double, as digits and
power of ten. -/
def shortest (significand : Nat) (exponent : Int) : Nat × Int :=
  let b := readBack significand exponent
  let k := magnitude b.value b.den
  ((List.range 17).findSome? fun n => b.candidate? k (n + 1)).getD (0, 0)

/-- How a decimal is laid out. -/
structure Layout where
  /-- Decimal exponents below this one are written with an exponent. -/
  least : Int
  /-- Decimal exponents from this one on are written with an exponent. -/
  most : Int
  /-- The least number of digits of a written exponent. -/
  exponentWidth : Nat

/-- The layout of all numbers shown by the library: positional from `0.0001` up
to below `10 ^ 16`, and exponents of two digits at least. -/
def layout : Layout := ⟨-4, 16, 2⟩

/-- Digits and a power of ten, laid out with at least one decimal place or with
an exponent. -/
def Layout.write (l : Layout) (digits : Nat) (power : Int) : Text :=
  let ds := ((Nat.toDigits 10 digits).reverse.dropWhile (· = '0')).reverse
  let point : Int := (Nat.toDigits 10 digits).length + power
  let e := point - 1
  if e < l.least ∨ l.most ≤ e then
    let size := ofNat e.natAbs
    ds.take 1 ++ (if ds.length ≤ 1 then [] else '.' :: ds.drop 1) ++
      ['e', if e < 0 then '-' else '+'] ++
      List.replicate (l.exponentWidth - size.length) '0' ++ size
  else if point ≤ 0 then
    ['0', '.'] ++ List.replicate (-point).toNat '0' ++ ds
  else
    let n := point.toNat
    let whole := ds.take n ++ List.replicate (n - ds.length) '0'
    whole ++ ['.'] ++ (if ds.length ≤ n then ['0'] else ds.drop n)

def ofFloat (x : Float) : Text :=
  match Double.ofFloat x with
  | .nan => "nan".toList
  | .infinite negative => if negative then "-inf".toList else "inf".toList
  | .finite negative m e =>
    let sign : Text := if negative then ['-'] else []
    if m = 0 then sign ++ "0.0".toList
    else
      let (digits, power) := shortest m e
      sign ++ layout.write digits power

end Decimal

end SketchRepair
