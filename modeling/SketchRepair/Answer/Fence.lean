import SketchRepair.Text.Blank
import SketchRepair.Text.Word

/-!
# SketchRepair — fenced blocks

Answers put code between fences of three backticks. The first fence of an answer
opens a block; behind it may stand the name of a language, and the block runs to
the next fence. Blanks at the two ends of a block do not belong to it.
-/

namespace SketchRepair

namespace Answer

def fence : Text := "```".toList

/-- The first fenced block of an answer, where `label` drops the name of the
language from the text behind the opening fence. -/
def fencedBlock? (label : Text → Text) (answer : Text) : Option Text :=
  match Text.cut? fence answer with
  | none => none
  | some (_, behind) =>
    (Text.cut? fence (label behind)).map fun (body, _) => Text.trim body

/-- The text behind the first of the given names that it begins with; the text
itself when it begins with none. -/
def dropLabel (names : List Text) (t : Text) : Text :=
  (names.findSome? fun n => Text.after? n t).getD t

/-- The text behind a name of any language. -/
def dropAnyLabel (t : Text) : Text := t.dropWhile fun c => isWord c || c = '-'

/-- The code in the first fenced block of an answer; none when there is no such
block or it is empty. With no names given the block may be of any language. -/
def codeBlock? (languages : List Text) (answer : Text) : Option Text :=
  let label := if languages.isEmpty then dropAnyLabel else dropLabel languages
  (fencedBlock? label answer).filter (· ≠ [])

end Answer

end SketchRepair
