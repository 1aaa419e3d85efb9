import SketchRepair.Json.Complaint

/-!
# SketchRepair — requests and responses

What goes over the wire, as far as the service looks at it: a method, a path and a
body on the one side, a status and a JSON body on the other.
-/

namespace SketchRepair

namespace Http

structure Request where
  /-- The method, in any letter case. -/
  method : Text
  /-- The path, with or without a query behind it. -/
  path : Text
  body : Option Text
  deriving DecidableEq, Repr

structure Response where
  status : Nat
  body : Json

namespace Response

/-- A response that tells what is wrong. -/
def problem (status : Nat) (detail : Text) : Response :=
  ⟨status, .obj [("detail".toList, .str detail)]⟩

/-- A complaint in the body of a response. -/
def complaintBody (c : Complaint) : Json :=
  .obj [("type".toList, .str c.defect.name), ("loc".toList, .arr (c.path.map (·.json)))]

/-- The response to a request whose body is not as it has to be. -/
def rejected (complaints : List Complaint) : Response :=
  ⟨422, .obj [("detail".toList, .arr (complaints.map complaintBody))]⟩

end Response

end Http

end SketchRepair
