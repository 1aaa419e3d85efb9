import SketchRepair.Text.Search
import SketchRepair.Text.Word
import SketchRepair.Text.Position

/-!
# SketchRepair — names in scripts

Where a name stands in a script as a word of its own. A word ends where word
characters and other characters meet; `$` is no word character, so a name that
begins with `$` counts only directly behind a word character.

Main definitions:

* `occurrences` — the places where a name stands as a word;
* `occurrenceLines` — their lines;
* `guardFirst` — the text with the first of them replaced.
-/

namespace SketchRepair

namespace Script

/-- Is there a word boundary between two neighbouring characters, either of which
may be missing? -/
def isBoundary (prev next : Option Char) : Bool := isWordAt prev != isWordAt next

/-- The length of `name`, if it stands here as a word. -/
def nameHere (name : Text) (prev : Option Char) (t : Text) : Option Nat :=
  match Text.after? name t with
  | none => none
  | some rest =>
    let last := if name.isEmpty then prev else name.getLast?
    if isBoundary prev t.head? && isBoundary last rest.head? then some name.length else none

/-- The places where `name` stands in a script as a word. -/
def occurrences (name script : Text) : List (Nat × Nat) := Text.spans (nameHere name) script

/-- Does `name` stand in the script as a word? -/
def mentions (name script : Text) : Bool := !(occurrences name script).isEmpty

/-- The lines, counted from one, of the places where `name` stands as a word. -/
def occurrenceLines (name script : Text) : List Nat :=
  (occurrences name script).map fun (i, _) => Text.lineAt script i

/-- The text with `new` in the place of the first word `name`. -/
def guardFirst (name new t : Text) : Text :=
  match occurrences name t with
  | [] => t
  | (i, j) :: _ => t.take i ++ new ++ t.drop j

end Script

end SketchRepair
