import SketchRepair.Text.Blank

/-!
# SketchRepair — mechanical repair of style sheets

Two replacements mend a style sheet without understanding it. A value that begins a
line or a declaration gets a placeholder property before its colon. A closing
brace gets a `;` before it when the last character in front of it, blanks aside,
is neither `;` nor a brace.
-/

namespace SketchRepair

namespace Stylesheet

/-- What is written for the colon of a nameless value and the blank behind it. -/
def placeholder : Text := "position: ".toList

/-- Names the nameless values. `opening` says whether only blanks stand between
the place and the beginning of its line, or an opening brace or a `;`. -/
def nameValues : (opening : Bool) → Text → Text
  | _, [] => []
  | opening, ':' :: c :: t =>
    -- the blank behind the colon is spent, but as a line feed it begins a line
    if opening && isBlank c then placeholder ++ nameValues (c = '\n') t
    else ':' :: nameValues false (c :: t)
  | opening, c :: t =>
    c :: nameValues (c = '\n' || c = '{' || c = ';' || (opening && isBlank c)) t

/-- May the character end a declaration or stand around it? -/
def isTerminator (c : Char) : Bool := c = ';' || c = '{' || c = '}'

/-- Ends the declarations that a closing brace follows. -/
def endDeclarations : Text → Text
  | [] => []
  | c :: t =>
    if !isTerminator c && !isBlank c && (t.dropWhile isBlank).head? = some '}' then
      c :: ';' :: endDeclarations t
    else c :: endDeclarations t

def mend (css : Text) : Text := endDeclarations (nameValues true css)

/-- Do two style sheets differ in more than their blanks? -/
def differs (before after : Text) : Bool := Text.squeeze before ≠ Text.squeeze after

end Stylesheet

end SketchRepair
