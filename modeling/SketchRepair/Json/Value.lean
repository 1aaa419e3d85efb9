import SketchRepair.Text.Quoted
import SketchRepair.Decimal.Fixed
import SketchRepair.Decimal.Shortest

/-!
# SketchRepair — JSON values

The values that an answer in JSON can denote. A number is whole or real,
according to how it was written. The fields of an object keep the order in
which their names first appeared.
-/

namespace SketchRepair

/-- A number, as it was written. -/
inductive Number where
  /-- A whole number of any size. -/
  | whole (n : Int)
  /-- A number with a fraction, an exponent, or no finite value. -/
  | real (x : Float)

inductive Json where
  | null
  | bool (b : Bool)
  | num (n : Number)
  | str (s : Text)
  | arr (items : List Json)
  | obj (fields : List (Text × Json))

instance : Inhabited Json := ⟨.null⟩

namespace Number

def text : Number → Text
  | whole n => Decimal.ofInt n
  | real x => Decimal.ofFloat x

/-- Is it zero, of either sign? -/
def isZero : Number → Bool
  | whole n => n == 0
  | real x => x == 0

/-- The number rounded to two decimal places; a whole number stays as it is. -/
def roundTwoPlaces : Number → Number
  | whole n => whole n
  | real x => real (Decimal.roundTwoPlaces x)

end Number

namespace Json

/-- The fields with `name` given the value `v`: in its old place when the name
is present, at the end otherwise. -/
def put (name : Text) (v : Json) : List (Text × Json) → List (Text × Json)
  | [] => [(name, v)]
  | (n, w) :: fields => if n = name then (n, v) :: fields else (n, w) :: put name v fields

/-- The value of a field; `null` when the object has no such field, or the value
is no object. -/
def field (name : Text) : Json → Json
  | obj fields => ((fields.find? (·.1 = name)).map (·.2)).getD null
  | _ => null

/-- Is the value empty: null, false, zero, or without content? -/
def isEmpty : Json → Bool
  | null => true
  | bool b => !b
  | num n => n.isZero
  | str s => List.isEmpty s
  | arr items => items.isEmpty
  | obj fields => fields.isEmpty

mutual

/-- The value as it stands inside a list or an object: texts are quoted. -/
def nested : Json → Text
  | null => "None".toList
  | bool b => if b then "True".toList else "False".toList
  | num n => n.text
  | str s => s.quoted
  | arr items => ['['] ++ Text.joinWith ", ".toList (nestedItems items) ++ [']']
  | obj fields => ['\x7b'] ++ Text.joinWith ", ".toList (nestedFields fields) ++ ['\x7d']

/-- The items of a list, each as it stands in the list. -/
def nestedItems : List Json → List Text
  | [] => []
  | v :: vs => nested v :: nestedItems vs

/-- The fields of an object, each with its quoted name. -/
def nestedFields : List (Text × Json) → List Text
  | [] => []
  | (name, v) :: fields => (Text.quoted name ++ ": ".toList ++ nested v) :: nestedFields fields

end

/-- The value as a text of its own: a text stays as it is. -/
def text : Json → Text
  | str s => s
  | v => nested v

/-- Why a value is not taken as a whole number. -/
inductive WholeError where
  | notNumeric
  | infinite
  deriving DecidableEq, Repr

/-- The value as a whole number: a real number loses its fraction, a truth value
counts as one or zero, and a text is read in decimal. -/
def toWhole : Json → Except WholeError Int
  | num (.whole n) => .ok n
  | num (.real x) =>
    match Double.ofFloat x with
    | .nan => .error .notNumeric
    | .infinite _ => .error .infinite
    | .finite negative m e => .ok (Double.truncate negative m e)
  | bool b => .ok (if b then 1 else 0)
  | str s =>
    match Decimal.readInt s with
    | .ok n => .ok n
    | .error _ => .error .notNumeric
  | _ => .error .notNumeric

end Json

end SketchRepair
