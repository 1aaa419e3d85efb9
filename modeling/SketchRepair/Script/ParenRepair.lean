import SketchRepair.Script.Paren
import SketchRepair.Text.Blank

/-!
# SketchRepair — mechanical repair of parentheses

An open parenthesis is closed where its call ends: before the first `;`, `{` or
`}` that follows outside the parentheses opened in between, with no blank before
the new `)`. A stray `)` is replaced by a comment, so that what follows it does
not move onto another column. The issues are mended from the last to the first;
no offset that is still to come then changes.
-/

namespace SketchRepair

namespace Script

/-- The comment that stands in for a stray parenthesis; it holds none itself. -/
def strayMarker : Text := "/* removed extra paren */".toList

/-- Does the character end a statement or open or close a block? -/
def endsStatement (c : Char) : Bool := c = ';' || c = '{' || c = '}'

/-- The text up to the first statement end outside of parentheses; `depth` counts
those open before it, a negative number those closed too often. -/
def callPart : (depth : Int) → Text → Text
  | _, [] => []
  | depth, c :: t =>
    if c = '(' then c :: callPart (depth + 1) t
    else if c = ')' then c :: callPart (depth - 1) t
    else if endsStatement c ∧ depth ≤ 0 then []
    else c :: callPart depth t

/-- The offset at which the parenthesis at `index` is to be closed. -/
def closePosition (source : Text) (index : Int) : Int :=
  let first := index + 1
  if source.length ≤ first then source.length
  else
    -- from a negative offset the scan runs through the end into the beginning
    let behind := Offset.beyond first source
    let scanned := if first < 0 then behind ++ source else behind
    first + (Text.trimEnd (callPart 0 scanned)).length

def mendParen (source : Text) (issue : ParenIssue) : Text :=
  match issue.fault with
  | .missingClose =>
    let i := closePosition source issue.index
    Offset.before i source ++ [')'] ++ Offset.beyond i source
  | .extraClose =>
    Offset.before issue.index source ++ strayMarker ++ Offset.beyond (issue.index + 1) source

/-- The script with all given issues mended, from the last to the first. -/
def mendParens (source : Text) (issues : List ParenIssue) : Text :=
  (issues.mergeSort fun a b => b.index ≤ a.index).foldl mendParen source

/-- The script with all given issues mended, and how many these are. -/
def mendAndCount (source : Text) (issues : List ParenIssue) : Text × Nat :=
  (mendParens source issues, issues.length)

end Script

end SketchRepair
