import SketchRepair.Text.Blank
import SketchRepair.Text.Digit

/-!
# SketchRepair — whole numbers in text

Writing a whole number in decimal digits, and reading one. A number is read
from the digits of any script, with single underscores between digits and
spaces around; a number of more than 4300 digits is refused.
-/

namespace SketchRepair

namespace Decimal

/-- The decimal digits of a natural number. -/
def ofNat (n : Nat) : Text := Nat.toDigits 10 n

/-- A whole number in decimal digits, with a minus sign when it is negative. -/
def ofInt : Int → Text
  | .ofNat n => ofNat n
  | .negSucc n => '-' :: ofNat (n + 1)

/-- Why a text is not read as a whole number. -/
inductive ReadError where
  /-- The text has another form. -/
  | malformed (text : Text)
  /-- The number has more digits than are read. -/
  | tooLong (digits : Nat)
  deriving DecidableEq, Repr

/-- The greatest number of digits that is read. -/
def digitLimit : Nat := 4300

/-- The number that a list of digit values stands for. -/
def ofDigits (ds : List Nat) : Nat := ds.foldl (fun n d => 10 * n + d) 0

/-- The number with the given digit values, unless there are too many. -/
def readDigits (ds : List Nat) : Except ReadError Nat :=
  if ds.length ≤ digitLimit then .ok (ofDigits ds) else .error (.tooLong ds.length)

/-- The digit values of a run of digits in which single underscores may stand
between two digits. -/
def groupedDigits? : Text → Option (List Nat)
  | [] => none
  | [c] => (digitValue? c).map ([·])
  | c :: '_' :: t =>
    match digitValue? c, groupedDigits? t with
    | some d, some ds => some (d :: ds)
    | _, _ => none
  | c :: t =>
    match digitValue? c, groupedDigits? t with
    | some d, some ds => some (d :: ds)
    | _, _ => none

/-- A space that may stand around a number: a blank other than the four
information separators. -/
def isPadding (c : Char) : Bool := isBlank c && !(0x1C ≤ c.toNat && c.toNat ≤ 0x1F)

/-- Reads a whole number with an optional sign. Of a run of too many digits it does
not matter what stands behind it. -/
def readInt (text : Text) : Except ReadError Int :=
  let t := ((text.dropWhile isPadding).reverse.dropWhile isPadding).reverse
  let (negative, body) :=
    match t with
    | '-' :: r => (true, r)
    | '+' :: r => (false, r)
    | r => (false, r)
  -- the digits are counted before anything behind them is looked at
  let run := body.takeWhile fun c => isDecimalDigit c || c = '_'
  match groupedDigits? run with
  | none => .error (.malformed text)
  | some ds =>
    match readDigits ds with
    | .error e => .error e
    | .ok n =>
      if run.length < body.length then .error (.malformed text)
      else .ok (if negative then -(n : Int) else n)

end Decimal

end SketchRepair
