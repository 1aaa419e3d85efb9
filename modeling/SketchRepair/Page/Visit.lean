import SketchRepair.Page.Event

/-!
# SketchRepair — visiting a page

To run a page, a browser is started, the page is loaded from a file until the
network is idle, and after some time to settle everything is released again. What
the browser observes meanwhile becomes the events of the run. A visit never fails:
when one of its stages does, what was opened is still released, and there are no
events.
-/

namespace SketchRepair

namespace Page

/-! ## Observations -/

inductive Observation where
  /-- An uncaught error of a script, with the attributes it has and the text that
  stands for it. -/
  | scriptError (name message stack : Option Text) (shown : Text)
  | console (kind text : Text)
  /-- A resource that was not loaded, and why. -/
  | failedRequest (url failure : Option Text)
  deriving DecidableEq, Repr

/-- The text, unless it is missing or empty. -/
def filled? (t : Option Text) : Option Text := t.filter (!·.isEmpty)

/-- The message of an error: its name stands before it, unless it begins with that
name. -/
def errorMessage (name : Option Text) (message : Text) : Text :=
  match filled? name with
  | some n => if Text.startsWith n message then message else n ++ ": ".toList ++ message
  | none => message

def Observation.event : Observation → Event
  | scriptError name message stack shown =>
    ⟨.pageError, errorMessage name ((filled? message).getD shown), stack, none⟩
  | console kind text =>
    ⟨if kind = "error".toList then .consoleError else .consoleMessage, text, none, none⟩
  | failedRequest url failure =>
    ⟨.requestFailed, (filled? failure).getD "request failed".toList, none, url⟩

/-! ## Visits -/

/-- The stages of a visit that can fail. -/
inductive Stage where
  | start
  | launch
  | newPage
  | load
  | settle
  | close
  deriving DecidableEq, Repr

namespace Stage

def name : Stage → Text
  | start => "start".toList
  | launch => "launch".toList
  | newPage => "new_page".toList
  | load => "goto".toList
  | settle => "wait".toList
  | close => "close".toList

def all : List Stage := [start, launch, newPage, load, settle, close]

def ofName? (name : Text) : Option Stage := all.find? (·.name = name)

/-- The place of a stage in the order. -/
def rank (s : Stage) : Nat := all.idxOf s

end Stage

/-- How a browser is used. -/
structure Browser where
  /-- How long a page may load, in milliseconds. -/
  loadTimeout : Int
  /-- How long a page settles, in milliseconds, when nothing else is said. -/
  settle : Int
  flags : List Text
  deriving DecidableEq, Repr

/-- One thing that is asked of the browser. -/
inductive Action where
  | launch (flags : List Text)
  | load (page : Text) (timeout : Int)
  | wait (time : Int)
  | close
  | leave
  deriving DecidableEq, Repr

/-- The stage that an action belongs to; what was opened at that stage is released
whatever fails behind it. -/
def Action.stage : Action → Stage
  | launch _ => .launch
  | load .. => .load
  | wait _ => .settle
  | close => .newPage
  | leave => .launch

/-- The actions of a visit during which nothing fails. -/
def Browser.actions (b : Browser) (page : Text) (settle : Option Int) : List Action :=
  [.launch b.flags, .load page b.loadTimeout, .wait (settle.getD b.settle), .close, .leave]

/-- The actions of a visit that fails at the given stage, if at any: those of the
stages up to it, and those that release what was opened. -/
def Browser.visit (b : Browser) (page : Text) (settle : Option Int) (failing : Option Stage) :
    List Action :=
  match failing with
  | none => b.actions page settle
  | some s => (b.actions page settle).filter fun a => a.stage.rank ≤ s.rank

def visitEvents (failing : Option Stage) (observed : List Observation) : List Event :=
  if failing.isSome then [] else observed.map Observation.event

end Page

end SketchRepair
