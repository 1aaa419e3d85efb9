import SketchRepair.Json.Parser
import SketchRepair.Patch.Block
import SketchRepair.Patch.Line

/-!
# SketchRepair — what aborts a pass

A repair pass gets by with almost every answer and event; the causes here are
the few that end it early.
-/

namespace SketchRepair

/-- Why a pass was aborted. -/
inductive Abort where
  /-- The oracle, a template that is none, or a pass from outside the library failed with
  this text. -/
  | failed (text : Text)
  /-- A text was needed as a whole number and is none, or has too many digits. -/
  | unreadable (cause : Decimal.ReadError)
  /-- An infinity was needed as a whole number. -/
  | infinite
  deriving DecidableEq, Repr

namespace Abort

/-- The longest quotation of a text that is not a number. -/
def quotationLimit : Nat := 200

def message : Abort → Text
  | failed text => text
  | unreadable (.malformed text) =>
    "invalid literal for int() with base 10: ".toList ++ (Text.quoted text).take quotationLimit
  | unreadable (.tooLong n) =>
    "Exceeds the limit (4300 digits) for integer string conversion: value has ".toList ++
      Decimal.ofNat n ++
      " digits; use sys.set_int_max_str_digits() to increase the limit".toList
  | infinite => "cannot convert float infinity to integer".toList

/-- The cause behind a value that is needed as a whole number: only an infinity
aborts. -/
def ofWholeError {α : Type} : Except Json.WholeError (Option α) → Except Abort (Option α)
  | .ok v => .ok v
  | .error .infinite => .error .infinite
  | .error .notNumeric => .ok none

/-- The cause behind a number that could not be read. -/
def ofReadError {α : Type} : Except Decimal.ReadError α → Except Abort α
  | .ok v => .ok v
  | .error e => .error (.unreadable e)

end Abort

end SketchRepair
