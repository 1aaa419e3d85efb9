import SketchRepair.Json.Complaint
import SketchRepair.Json.Parser

/-!
# SketchRepair — reading settings

The values of settings are given as texts. Truth values are a dozen words in any
letter case. Whole numbers may have a sign, zeros before them, a fraction of zeros
behind them, and single underscores inside; real numbers may be infinite or no
number. A list is written in JSON.
-/

namespace SketchRepair

namespace Settings

/-- The text without the spaces around it. -/
def unpadded (t : Text) : Text :=
  ((t.dropWhile Decimal.isPadding).reverse.dropWhile Decimal.isPadding).reverse

/-- The text in small letters of the ASCII range. -/
def small (t : Text) : Text := t.map Char.toLower

/-! ## Truth values -/

def trueWords : List Text :=
  ["1".toList, "t".toList, "y".toList, "on".toList, "yes".toList, "true".toList]

def falseWords : List Text :=
  ["0".toList, "f".toList, "n".toList, "no".toList, "off".toList, "false".toList]

def readBool (t : Text) : Except Defect Bool :=
  if trueWords.contains (small t) then .ok true
  else if falseWords.contains (small t) then .ok false
  else .error .notBoolean

/-! ## Whole numbers -/

/-- The text without its underscores, when there are any and each stands alone
between other characters. -/
def withoutUnderscores? (t : Text) : Option Text :=
  if !t.contains '_' || Text.startsWith ['_'] t || Text.endsWith ['_'] t || Text.has ['_', '_'] t
  then none
  else some (t.filter (· ≠ '_'))

/-- Sign and digit values of a number in its plain form: an optional minus sign,
and digits of which the first is no zero unless it is the only one. -/
def plainWhole? (t : Text) : Option (Bool × List Nat) :=
  let (negative, ds) :=
    match t with
    | '-' :: r => (true, r)
    | r => (false, r)
  if ds.isEmpty || !ds.all Json.isAsciiDigit || (ds.head? = some '0' && 1 < ds.length) then none
  else some (negative, ds.map Json.asciiDigit)

/-- The text of a number, which may begin with zeros, from its first other digit
on. A zero before a point stays, and so does the last character of nothing but
zeros; underscores between the zeros go with them. -/
def withoutZeros? (t : Text) : Option Text :=
  match t with
  | '0' :: r =>
    let rest := r.dropWhile fun c => c = '0' || c = '_'
    match rest with
    | [] => t.getLast?.map ([·])
    | '.' :: _ => some (t.drop (t.length - rest.length - 1))
    | c :: _ => if Json.isAsciiDigit c then some rest else none
  | c :: _ => if Json.isAsciiDigit c ∨ c = '-' then some t else none
  | [] => none

/-- The text without a fraction of zeros. A point that nothing follows is no
fraction. -/
def withoutFraction (t : Text) : Text :=
  match Text.upTo? '.' t with
  | some (whole, places) => if !places.isEmpty && places.all (· = '0') then whole else t
  | none => t

/-- The text with everything taken off that a whole number may have around its
plain form. -/
def stripped? (t : Text) : Option Text :=
  let t := unpadded t
  let unsigned :=
    match t with
    | '+' :: '-' :: _ => none
    | '+' :: r => some r
    | _ => some t
  (unsigned.bind withoutZeros?).map fun t =>
    let t := withoutFraction t
    (withoutUnderscores? t).getD t

/-- The number of a sign and digit values. -/
def signed (negative : Bool) (digits : List Nat) : Int :=
  if negative then -(Decimal.ofDigits digits : Int) else Decimal.ofDigits digits

def readWhole (t : Text) : Except Defect Int :=
  match plainWhole? t with
  | some (negative, ds) =>
    -- only the plain form is told apart as too long
    if Decimal.digitLimit < ds.length then .error .tooManyDigits else .ok (signed negative ds)
  | none =>
    match (stripped? t).bind plainWhole? with
    | some (negative, ds) =>
      if Decimal.digitLimit < ds.length then .error .notWhole else .ok (signed negative ds)
    | none => .error .notWhole

/-! ## Real numbers -/

/-- The real number that digits, a point among them, and an exponent denote. -/
def decimal? (negative : Bool) (t : Text) : Option Float :=
  let whole := t.takeWhile Json.isAsciiDigit
  let rest := t.drop whole.length
  let (places, rest) :=
    match rest with
    | '.' :: r =>
      let places := r.takeWhile Json.isAsciiDigit
      (places, r.drop places.length)
    | r => ([], r)
  let value (power : Int) : Float :=
    Decimal.nearest negative ((whole ++ places).map Json.asciiDigit) (power - places.length)
  if whole.isEmpty && places.isEmpty then none
  else if rest.isEmpty then some (value 0)
  else
    match Json.exponent? rest with
    | some (power, []) => some (value power)
    | _ => none

/-- The real number that a text denotes, with no spaces around it. -/
def real? (t : Text) : Option Float :=
  let (negative, body) :=
    match t with
    | '-' :: r => (true, r)
    | '+' :: r => (false, r)
    | r => (false, r)
  if small body = "inf".toList ∨ small body = "infinity".toList then
    some (if negative then -1 / 0 else 1 / 0)
  else if small body = "nan".toList then some (0 / 0)
  else decimal? negative body

def readReal (t : Text) : Except Defect Float :=
  match (real? (unpadded t)).orElse fun _ => (withoutUnderscores? t).bind real? with
  | some x => .ok x
  | none => .error .notReal

/-! ## Lists of texts -/

/-- The positions from `i` on at which an item is no text. -/
def strangers : Nat → List Json → List Nat
  | _, [] => []
  | i, .str _ :: items => strangers (i + 1) items
  | i, _ :: items => i :: strangers (i + 1) items

def textItem? : Json → Option Text
  | .str t => some t
  | _ => none

/-- The texts that a JSON value lists; otherwise the defects, each with the position
of the item that has it, unless the value is no list at all. -/
def textList (v : Json) : Except (List (Defect × Option Nat)) (List Text) :=
  match v with
  | .arr items =>
    match strangers 0 items with
    | [] => .ok (items.filterMap textItem?)
    | is => .error (is.map fun i => (.notText, some i))
  | _ => .error [(.notList, none)]

end Settings

end SketchRepair
