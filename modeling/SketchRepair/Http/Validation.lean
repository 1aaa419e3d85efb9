import SketchRepair.Http.Message
import SketchRepair.Json.Parser

/-!
# SketchRepair — the body of a repair request

The body is a JSON object with the page and the name of what is to be run on it.
Either may be missing or null as far as its form goes; a value of another kind is
complained about.
-/

namespace SketchRepair

namespace Http

structure RepairRequest where
  page : Option Text
  /-- What is to be run: a pass, or all of them. -/
  selection : Option Text
  deriving DecidableEq, Repr

namespace RepairRequest

def pageName : Text := "html".toList

/-- The field of the selection, and the other name it may be given under. -/
def selectionNames : List Text := ["validationType".toList, "validation_type".toList]

/-- The path to the body of a request. -/
def bodyPath : List Step := [.name "body".toList]

/-- The text that a field holds, or a complaint about it. -/
def textField (name : Text) (v : Json) : Except (List Complaint) (Option Text) :=
  match v with
  | .null => .ok none
  | .str t => .ok (some t)
  | _ => .error [⟨.notText, bodyPath ++ [.name name]⟩]

/-- The request that an object describes; of two names of a field the first that is
given counts. -/
def ofFields (fields : List (Text × Json)) : Except (List Complaint) RepairRequest :=
  let given (name : Text) : Option (Text × Json) := fields.find? (·.1 = name)
  let read (names : List Text) : Except (List Complaint) (Option Text) :=
    match names.findSome? given with
    | some (name, v) => textField name v
    | none => .ok none
  match read [pageName], read selectionNames with
  | .ok page, .ok selection => .ok ⟨page, selection⟩
  | .error cs, .ok _ => .error cs
  | .ok _, .error cs => .error cs
  | .error cs, .error ds => .error (cs ++ ds)

/-- The mark that a body may begin with. -/
def byteOrderMark : Char := '\uFEFF'

/-- The request that a body describes, or the response that refuses it. -/
def ofBody (body : Option Text) : Except Response RepairRequest :=
  let text := body.getD []
  -- places in the body are counted without the mark
  let text := if text.head? = some byteOrderMark then text.tail else text
  let complain (d : Defect) (inside : List Step) : Except Response RepairRequest :=
    .error (.rejected [⟨d, bodyPath ++ inside⟩])
  if (body.getD []).isEmpty then complain .missing []
  else
    match Json.parse text with
    | .error (.malformed offset) => complain .notJson [.position offset]
    | .error (.tooLong _) => .error (.problem 400 "There was an error parsing the body".toList)
    | .ok .null => complain .missing []
    | .ok (.obj fields) => (ofFields fields).mapError .rejected
    | .ok _ => complain .notObject []

end RepairRequest

end Http

end SketchRepair
