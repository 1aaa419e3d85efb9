import SketchRepair.Decimal.Nearest
import SketchRepair.Json.Value
import SketchRepair.Text.Digit

/-!
# SketchRepair — reading JSON

Reads one JSON value. Blanks are the space, tab, line feed and carriage return;
texts hold no raw control characters; `NaN`, `Infinity` and `-Infinity` are
numbers; of two fields with one name the later value counts. A whole number of
more than 4300 digits is refused as too long, every other departure from the
grammar as malformed, together with the place where it shows.

The parser is recursive descent. Every call spends one unit of fuel, and
`Json.parse` gives enough for any text, because at most two calls stand between
two characters that are read.
-/

namespace SketchRepair

namespace Json

/-- Why a text is not read as JSON. -/
inductive Fault where
  /-- The grammar is broken at this offset. -/
  | malformed (offset : Nat)
  /-- A whole number has too many digits. -/
  | tooLong (digits : Nat)
  deriving DecidableEq, Repr

/-- The outcome of reading from a place on: the value and the text behind it.
Inside the parser a fault carries the length of the text from its place on. -/
abbrev Reading (α : Type) := Except Fault (α × Text)

/-- A fault at the beginning of `t`. -/
def faultAt {α : Type} (t : Text) : Except Fault α := .error (.malformed t.length)

def isSpace (c : Char) : Bool := c = ' ' || c = '\t' || c = '\n' || c = '\r'

/-- The text from its first character that is not blank. -/
def skip (t : Text) : Text := t.dropWhile isSpace

/-! ## Texts -/

/-- The number given by four hexadecimal digits that do not end the text. -/
def fourHex? : Text → Option (Nat × Text)
  | a :: b :: c :: d :: e :: t =>
    match hexValue? a, hexValue? b, hexValue? c, hexValue? d with
    | some a, some b, some c, some d => some (((a * 16 + b) * 16 + c) * 16 + d, e :: t)
    | _, _, _, _ => none
  | _ => none

/-- The character named by one letter after a backslash. -/
def escaped? : Char → Option Char
  | '"' => some '"'
  | '\\' => some '\\'
  | '/' => some '/'
  | 'b' => some '\x08'
  | 'f' => some '\x0c'
  | 'n' => some '\n'
  | 'r' => some '\r'
  | 't' => some '\t'
  | _ => none

/-- Stands for half of a surrogate pair. The program keeps such a half in its texts, and
fails when it has to write one down; it is no character, so another one takes its place. -/
def standIn : Char := '\uFFFD'

/-- The character of a number from a `\u` escape. Half of a pair alone has none. -/
def codePoint (n : Nat) : Char := if 0xD800 ≤ n ∧ n < 0xE000 then standIn else Char.ofNat n

/-- Reads a text whose opening quote has been read; `opened` is the text from
that quote on. -/
def readText (opened : Text) : Nat → Text → Reading Text
  | 0, t => faultAt t
  | fuel + 1, t =>
    match t with
    | [] => faultAt opened
    | '"' :: r => .ok ([], r)
    | '\\' :: 'u' :: r =>
      match fourHex? r with
      | none => faultAt ('u' :: r)
      | some (n, r') =>
        match r' with
        | '\\' :: 'u' :: low =>
          if 0xD800 ≤ n ∧ n < 0xDC00 then
            match fourHex? low with
            | none => faultAt ('u' :: low)
            | some (m, r'') =>
              -- a high half and the low half behind it are one character
              if 0xDC00 ≤ m ∧ m < 0xE000 then
                (readText opened fuel r'').map fun (s, r) =>
                  (Char.ofNat (0x10000 + (n - 0xD800) * 0x400 + (m - 0xDC00)) :: s, r)
              else (readText opened fuel r').map fun (s, r) => (codePoint n :: s, r)
          else (readText opened fuel r').map fun (s, r) => (codePoint n :: s, r)
        | _ => (readText opened fuel r').map fun (s, r) => (codePoint n :: s, r)
    | ['\\'] => faultAt opened
    | '\\' :: c :: r =>
      match escaped? c with
      | none => faultAt t
      | some e => (readText opened fuel r).map fun (s, r) => (e :: s, r)
    | c :: r =>
      if c.toNat < 32 then faultAt t
      else (readText opened fuel r).map fun (s, r) => (c :: s, r)

/-! ## Numbers -/

def isAsciiDigit (c : Char) : Bool := c.isDigit

/-- The value of an ASCII digit. -/
def asciiDigit (c : Char) : Nat := c.toNat - 48

/-- The digits of a fraction, when a point and a digit follow. -/
def fraction? : Text → Option (Text × Text)
  | '.' :: t =>
    let ds := t.takeWhile isAsciiDigit
    if ds.isEmpty then none else some (ds, t.drop ds.length)
  | _ => none

/-- The exponent, when one follows. -/
def exponent? : Text → Option (Int × Text)
  | c :: t =>
    if c = 'e' ∨ c = 'E' then
      let (negative, t) :=
        match t with
        | '-' :: r => (true, r)
        | '+' :: r => (false, r)
        | r => (false, r)
      let ds := t.takeWhile isAsciiDigit
      if ds.isEmpty then none
      else
        let n : Int := Decimal.ofDigits (ds.map asciiDigit)
        some (if negative then -n else n, t.drop ds.length)
    else none
  | [] => none

/-- Reads the digits of a number whose sign has been read. A zero stands alone
before the point. -/
def readDigits (negative : Bool) (t : Text) : Option (Reading Number) :=
  let ds :=
    match t with
    | '0' :: _ => ['0']
    | _ => t.takeWhile isAsciiDigit
  if ds.isEmpty then none
  else
    let t := t.drop ds.length
    let (places, r) := (fraction? t).getD ([], t)
    let (power, r') := (exponent? r).getD (0, r)
    some <|
      -- neither a fraction nor an exponent was read: the number is whole
      if r'.length = t.length then
        match Decimal.readDigits (ds.map asciiDigit) with
        | .ok n => .ok (.whole (if negative then -(n : Int) else n), t)
        | .error (.tooLong n) => .error (.tooLong n)
        | .error (.malformed _) => faultAt t
      else
        let digits := (ds ++ places).map asciiDigit
        .ok (.real (Decimal.nearest negative digits (power - places.length)), r')

def readNumber (t : Text) : Reading Number :=
  let reading :=
    match t with
    | '-' :: r => readDigits true r
    | _ => readDigits false t
  reading.getD (faultAt t)

/-! ## Values -/

/-- The values that are written as words. -/
def words : List (Text × Json) :=
  [("null".toList, .null), ("true".toList, .bool true), ("false".toList, .bool false),
    ("NaN".toList, .num (.real (0 / 0))), ("Infinity".toList, .num (.real (1 / 0))),
    ("-Infinity".toList, .num (.real (-1 / 0)))]

/-- Reads a value written as a word, or a number. -/
def readScalar (t : Text) : Reading Json :=
  match words.findSome? fun (w, v) => (Text.after? w t).map (v, ·) with
  | some reading => .ok reading
  | none => (readNumber t).map fun (n, r) => (.num n, r)

mutual

/-- Reads a value at the beginning of a text. -/
def readValue : Nat → Text → Reading Json
  | 0, t => faultAt t
  | fuel + 1, t =>
    match t with
    | '"' :: r => (readText t (r.length + 1) r).map fun (s, r) => (.str s, r)
    | '\x7b' :: r =>
      match skip r with
      | '\x7d' :: r => .ok (.obj [], r)
      | r => (readFields fuel [] r).map fun (fields, r) => (.obj fields, r)
    | '[' :: r =>
      match skip r with
      | ']' :: r => .ok (.arr [], r)
      | r => (readItems fuel r).map fun (items, r) => (.arr items, r)
    | _ => readScalar t

/-- Reads the items of a list up to its closing bracket. -/
def readItems : Nat → Text → Reading (List Json)
  | 0, t => faultAt t
  | fuel + 1, t =>
    match readValue fuel t with
    | .error e => .error e
    | .ok (v, r) =>
      match skip r with
      | ']' :: r => .ok ([v], r)
      | ',' :: r => (readItems fuel (skip r)).map fun (vs, r) => (v :: vs, r)
      | r => faultAt r

/-- Reads the fields of an object up to its closing brace, after those already
read. -/
def readFields : Nat → List (Text × Json) → Text → Reading (List (Text × Json))
  | 0, _, t => faultAt t
  | fuel + 1, fields, t =>
    match t with
    | '"' :: r =>
      match readText t (r.length + 1) r with
      | .error e => .error e
      | .ok (name, r) =>
        match skip r with
        | ':' :: r =>
          match readValue fuel (skip r) with
          | .error e => .error e
          | .ok (v, r) =>
            match skip r with
            | '\x7d' :: r => .ok (put name v fields, r)
            | ',' :: r => readFields fuel (put name v fields) (skip r)
            | r => faultAt r
        | r => faultAt r
    | _ => faultAt t

end

/-- Reads the one value of a text, with blanks around it. -/
def readAll (t : Text) : Except Fault Json :=
  match readValue (2 * t.length + 2) (skip t) with
  | .error e => .error e
  | .ok (v, r) =>
    match skip r with
    | [] => .ok v
    | r => faultAt r

/-- The JSON value that a text denotes. -/
def parse (t : Text) : Except Fault Json :=
  match readAll t with
  | .ok v => .ok v
  | .error (.malformed remaining) => .error (.malformed (t.length - remaining))
  | .error (.tooLong n) => .error (.tooLong n)

end Json

end SketchRepair
