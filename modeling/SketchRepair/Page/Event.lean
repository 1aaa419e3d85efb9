import SketchRepair.Text.Basic

/-!
# SketchRepair — what a page run reports

Running a page in a browser yields events: uncaught errors of its scripts,
console output, and resources that could not be loaded.
-/

namespace SketchRepair

namespace Page

/-- Where an event comes from. -/
inductive Channel where
  /-- An uncaught error of a script. -/
  | pageError
  | consoleError
  /-- Other console output; shader logs are among it. -/
  | consoleMessage
  /-- A resource that was not loaded. -/
  | requestFailed
  deriving DecidableEq, Repr

namespace Channel

def name : Channel → Text
  | pageError => "pageerror".toList
  | consoleError => "console".toList
  | consoleMessage => "console-message".toList
  | requestFailed => "requestfailed".toList

def ofName? (name : Text) : Option Channel :=
  [pageError, consoleError, consoleMessage, requestFailed].find? (·.name = name)

/-- Do errors of scripts arrive on the channel? -/
def carriesErrors : Channel → Bool
  | pageError => true
  | consoleError => true
  | _ => false

end Channel

/-- One observation of a page run. -/
structure Event where
  channel : Channel
  message : Text
  /-- The stack trace, if there is one. -/
  stack : Option Text
  /-- The resource it is about, if any. -/
  url : Option Text
  deriving DecidableEq, Repr

/-- Message and stack together; a stack that is part of the message is not
repeated. -/
def Event.text (e : Event) : Text :=
  match e.stack with
  | some s => if s.isEmpty ∨ Text.has s e.message then e.message else e.message ++ ['\n'] ++ s
  | none => e.message

end Page

end SketchRepair
