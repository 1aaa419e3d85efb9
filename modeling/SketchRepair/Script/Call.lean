import SketchRepair.Text.Blank
import SketchRepair.Text.Search
import SketchRepair.Text.Word

/-!
# SketchRepair — calls of a missing function

A function that is missing at run time belongs to an object, or is global and
then belongs to `window`. A member is found wherever object and function stand
joined by a point; a global function only where it is called, with or without
`window.` before it.
-/

namespace SketchRepair

namespace Script

/-- A function that does not exist. -/
structure MissingFunction where
  /-- The object it is looked up in. -/
  object : Text
  function : Text
  deriving DecidableEq, Repr

/-- The object that holds the global functions. -/
def globalObject : Text := "window".toList

namespace MissingFunction

/-- Object and function as a script writes them. -/
def reference (f : MissingFunction) : Text := f.object ++ ['.'] ++ f.function

def isGlobal (f : MissingFunction) : Bool := f.object = globalObject

/-- The length of a call `name(` that begins here, blanks allowed before the
parenthesis. -/
def callHere (name : Text) (t : Text) : Option Nat :=
  match Text.after? name t with
  | none => none
  | some r =>
    let gap := r.takeWhile isBlank
    if (r.drop gap.length).head? = some '(' then some (name.length + gap.length + 1) else none

/-- The length of a call site of the function that begins here. -/
def siteHere (f : MissingFunction) (prev : Option Char) (t : Text) : Option Nat :=
  if f.isGlobal then
    if prev.any fun c => isIdentifier c || c = '.' then none
    else (callHere (globalObject ++ ['.'] ++ f.function) t).orElse fun _ => callHere f.function t
  else if prev.any isIdentifier then none
  else
    match Text.after? f.reference t with
    | some r => if r.head?.any isIdentifier then none else some f.reference.length
    | none => none

/-- The call sites of the function in a text. -/
def sites (f : MissingFunction) (t : Text) : List (Nat × Nat) := Text.spans f.siteHere t

/-- Does the line hold a call site of the function? -/
def isCalledOn (f : MissingFunction) (line : Text) : Bool := !(f.sites line).isEmpty

/-- The lines of a script, counted from one, that hold a call site. -/
def callLines (f : MissingFunction) (lines : List Text) : List Nat :=
  (lines.zipIdx 1).filterMap fun (line, n) => if f.isCalledOn line then some n else none

end MissingFunction

end Script

end SketchRepair
