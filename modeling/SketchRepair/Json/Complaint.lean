import SketchRepair.Json.Value

/-!
# SketchRepair — complaints about given values

Settings and requests are given from outside, and each value has to be of its kind.
A complaint tells what is wrong and where: a path of names and positions that leads
to the value.
-/

namespace SketchRepair

/-- What is wrong with a given value. -/
inductive Defect where
  | notBoolean
  | notWhole
  /-- It is a whole number of too many digits. -/
  | tooManyDigits
  | notReal
  | notList
  | notText
  | notObject
  | notJson
  /-- It is not given at all. -/
  | missing
  deriving DecidableEq, Repr

def Defect.name : Defect → Text
  | notBoolean => "bool_parsing".toList
  | notWhole => "int_parsing".toList
  | tooManyDigits => "int_parsing_size".toList
  | notReal => "float_parsing".toList
  | notList => "list_type".toList
  | notText => "string_type".toList
  | notObject => "model_attributes_type".toList
  | notJson => "json_invalid".toList
  | missing => "missing".toList

/-- One step on the way to a value. -/
inductive Step where
  | name (text : Text)
  /-- To the item, or the character, at that position. -/
  | position (n : Nat)
  deriving DecidableEq, Repr

def Step.json : Step → Json
  | name text => .str text
  | position n => .num (.whole n)

/-- A complaint about a value. -/
structure Complaint where
  defect : Defect
  path : List Step
  deriving DecidableEq, Repr

end SketchRepair
