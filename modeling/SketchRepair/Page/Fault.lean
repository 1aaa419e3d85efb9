import SketchRepair.Page.Event
import SketchRepair.Page.Message

/-!
# SketchRepair — faults named by events

Turns the events of a page run into the faults to be repaired. The same fault
often arrives twice, as an uncaught error and as console output, so undefined
variables are told apart by name and line only, and missing functions by object
and name.
-/

namespace SketchRepair

namespace Page

/-- A variable that was used without being defined. -/
structure UndefinedVariable where
  name : Text
  /-- The line that the event names, if it names one. -/
  line : Option Nat
  message : Text
  deriving DecidableEq, Repr

/-- What tells an undefined variable from others: its name and its line, zero when
it has none. -/
def UndefinedVariable.key (v : UndefinedVariable) : Text :=
  v.name ++ [':'] ++ Decimal.ofNat (v.line.getD 0)

/-- Is the event about a name that is not defined? -/
def Event.isReferenceError (e : Event) : Bool :=
  e.channel.carriesErrors &&
    (Text.has "is not defined".toList e.message || Text.has "ReferenceError".toList e.message)

/-- Is the event about something that is no function? -/
def Event.isTypeError (e : Event) : Bool :=
  match e.channel with
  | .pageError => Text.has "is not a function".toList e.message
  | .consoleError =>
    Text.hasAny
      ["is not a function".toList, "TypeError".toList, "UNCAUGHT_EXCEPTION".toList] e.message
  | _ => false

/-- The line that an event names; only uncaught errors have a stack to name one. -/
def Event.line? (e : Event) : Except Decimal.ReadError (Option Nat) :=
  lineNumber? (if e.channel = .pageError then e.stack else none) (some e.message)

/-- The undefined variable that an event is about, if it names one. -/
def Event.undefinedVariable? (e : Event) : Except Decimal.ReadError (Option UndefinedVariable) :=
  match undefinedName? e.message with
  | none => .ok none
  | some name => e.line?.map fun line => some ⟨name, line, e.message⟩

/-- The undefined variables of the events, each key once, where the keys `seen`
have occurred before. -/
def distinctFrom :
    (seen : List Text) → List Event → Except Decimal.ReadError (List UndefinedVariable)
  | _, [] => .ok []
  | seen, e :: es =>
    match e.undefinedVariable? with
    | .error err => .error err
    | .ok none => distinctFrom seen es
    | .ok (some v) =>
      if seen.contains v.key then distinctFrom seen es
      else (distinctFrom (v.key :: seen) es).map (v :: ·)

/-- The undefined variables named by any of the events, each once. -/
def distinctVariables (events : List Event) : Except Decimal.ReadError (List UndefinedVariable) :=
  distinctFrom [] events

/-- The undefined variables of a page run. -/
def undefinedVariables (events : List Event) : Except Decimal.ReadError (List UndefinedVariable) :=
  distinctVariables (events.filter (·.isReferenceError))

/-- The missing functions of a page run, each once. -/
def missingFunctionsOf (events : List Event) : List Script.MissingFunction :=
  ((events.filter (·.isTypeError)).flatMap fun e => missingFunctions e.text).eraseDups

end Page

end SketchRepair
