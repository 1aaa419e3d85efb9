import SketchRepair.Http.Validation
import SketchRepair.Repair.Pipeline

/-!
# SketchRepair — the repair service

The service answers two routes: one tells that it is alive, the other repairs a
posted page and writes nothing. A path that differs from a route only by slashes at
its end leads to that route.
-/

namespace SketchRepair

namespace Http

inductive Route where
  | health
  | repair
  deriving DecidableEq, Repr

namespace Route

def path : Route → Text
  | health => "/health".toList
  | repair => "/validate-html".toList

def method : Route → Text
  | health => "GET".toList
  | repair => "POST".toList

/-- The route that a path leads to. -/
def ofPath? (path : Text) : Option Route :=
  let path := path.takeWhile fun c => c ≠ '?' && c ≠ '#'
  let bare := (path.reverse.dropWhile (· = '/')).reverse
  [health, repair].find? (·.path = bare)

end Route

/-- The name that stands for all standard passes. -/
def everything : Text := "all".toList

def selected? (selection : Text) : Option (List Pass) :=
  if selection = everything then some Pipeline.standard
  else (Pipeline.pass? selection).map ([·])

/-- The body of the response to a repair. -/
def reportBody (selection : Text) (r : Report) : Json :=
  .obj [("success".toList, .bool true), ("validationType".toList, .str selection),
    ("errors".toList, .arr (r.errors.map .str)),
    ("fixCount".toList, .num (.whole r.totalFixes)), ("html".toList, .str r.page)]

/-- The response to a request for repair, where `run` runs passes on a page. -/
def repairResponse (run : List Pass → Text → Except Abort Report) (r : RepairRequest) :
    Response :=
  let page := r.page.getD []
  let selection := r.selection.getD []
  if page.isEmpty || selection.isEmpty then
    .problem 400 "Missing required parameters: html and validationType".toList
  else
    match selected? selection with
    | none => .problem 400 ("Invalid validation type: ".toList ++ selection)
    | some passes =>
      match run passes page with
      | .ok report => ⟨200, reportBody selection report⟩
      | .error e => .problem 500 ("Internal server error: ".toList ++ e.message)

def respond (run : List Pass → Text → Except Abort Report) (r : Request) : Response :=
  match Route.ofPath? r.path with
  | none => .problem 404 "Not Found".toList
  | some route =>
    if r.method.map Char.toUpper ≠ route.method then .problem 405 "Method Not Allowed".toList
    else
      match route with
      | .health => ⟨200, .obj [("status".toList, .str "ok".toList)]⟩
      | .repair =>
        match RepairRequest.ofBody r.body with
        | .ok request => repairResponse run request
        | .error response => response

def runWith (team : Collaborators) (passes : List Pass) (page : Text) : Except Abort Report :=
  (Pipeline.run passes team page .initial).1

end Http

end SketchRepair
