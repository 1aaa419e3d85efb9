import SketchRepair.Text.Blank

/-!
# SketchRepair — the block around a line

To take a faulty call out of a script without leaving a brace or a parenthesis
behind, the statement or block around its line has to be found. The search is
textual: it walks back over lines that run on into the next one, forward until
braces and parentheses balance, and gives up on everything but the line itself
when what it found does not balance.
-/

namespace SketchRepair

namespace Script

/-- A range of lines counted from zero, both ends included. -/
structure Span where
  first : Int
  last : Int
  deriving DecidableEq, Repr

namespace Span

/-- The range counted from one. -/
def display (s : Span) : Int × Int := (s.first + 1, s.last + 1)

def contains (s : Span) (i : Int) : Bool := s.first ≤ i && i ≤ s.last

/-- Do two ranges share a line? -/
def overlaps (s o : Span) : Bool := s.first ≤ o.last && o.first ≤ s.last

/-- Number of lines; a range that ends more than one line before it begins has
none. -/
def length? (s : Span) : Option Nat :=
  if s.last - s.first + 1 < 0 then none else some (s.last - s.first + 1).toNat

end Span

/-! ## Lines that run on -/

/-- Endings with which a line runs on into the next. -/
def continuations : List Text :=
  ["(".toList, "\x7b".toList, ".".toList, "=>".toList, "&&".toList, "||".toList, "?".toList,
    ":".toList]

/-- Words that open a controlled statement or a function. -/
def controlOpeners : List Text :=
  ["if ".toList, "for ".toList, "while ".toList, "function ".toList, " => ".toList, "try ".toList,
    "catch ".toList, "else ".toList]

/-- Does the line run on into the next one? -/
def runsOn (line : Text) : Bool :=
  let t := Text.trim line
  Text.endsWithAny continuations t || Text.hasAny controlOpeners t

/-! ## Balance -/

/-- Opened braces less closed ones. -/
def braceSurplus (t : Text) : Int := (t.count '{' : Int) - t.count '}'

/-- Opened parentheses less closed ones. -/
def parenSurplus (t : Text) : Int := (t.count '(' : Int) - t.count ')'

/-- As many braces and parentheses are closed as are opened. -/
def isEven (t : Text) : Bool := braceSurplus t == 0 && parenSurplus t == 0

/-! ## The search -/

/-- The number of lines, among the given ones, after which both surpluses are
zero for the first time; all of them when that never happens. -/
def linesToBalance : (braces parens : Int) → List Text → Nat
  | _, _, [] => 0
  | braces, parens, l :: ls =>
    let b := braces + braceSurplus l
    let p := parens + parenSurplus l
    if b = 0 ∧ p = 0 then 1 else linesToBalance b p ls + 1

/-- The first line of the block around line `i`: the lines just before that run
on belong to it. -/
def blockStart (lines : List Text) (i : Nat) : Nat :=
  i - ((lines.take i).reverse.takeWhile runsOn).length

/-- The last line of the block that begins at line `start`, as far as the braces
and parentheses open at the end of line `i` tell. -/
def blockEnd (lines : List Text) (start i : Nat) : Nat :=
  let segment := Text.unlines ((lines.take (i + 1)).drop start)
  let braces := braceSurplus segment
  let parens := parenSurplus segment
  if 0 < braces ∨ 0 < parens then i + linesToBalance braces parens (lines.drop (i + 1)) else i

/-- Does a statement or block end on the line before which another may begin? -/
def precedesStatement (line : Text) : Bool :=
  Text.endsWithAny [[';'], ['{'], ['}']] (Text.trim line)

/-- Does a statement or block end with the line? -/
def closesStatement (line : Text) : Bool := Text.endsWithAny [[';'], ['}']] (Text.trim line)

/-- The line behind the nearest statement end before line `i`; `i` itself when no
statement ends before it. -/
def statementStart (lines : List Text) (i : Nat) : Nat :=
  match (lines.take i).reverse.findIdx? precedesStatement with
  | some k => i - k
  | none => i

/-- The nearest line from `i` on with which a statement ends; `i` itself when
there is none. -/
def statementEnd (lines : List Text) (i : Nat) : Nat :=
  match (lines.drop i).findIdx? closesStatement with
  | some k => i + k
  | none => i

/-- Does the line hold both an opening and a closing parenthesis? -/
def holdsCall (line : Text) : Bool :=
  let t := Text.trim line
  t.contains '(' && t.contains ')'

/-- The statement or block around a line that exists. -/
def blockAround (lines : List Text) (i : Nat) : Span :=
  let start := blockStart lines i
  let stop := blockEnd lines start i
  -- a lone line with a call grows to the statement it belongs to
  let (start, stop) :=
    if start = stop ∧ holdsCall (lines.getD i []) then
      (statementStart lines i, statementEnd lines i)
    else (start, stop)
  -- what does not balance is never taken out as a whole
  if isEven (Text.unlines ((lines.take (stop + 1)).drop start)) then ⟨start, stop⟩ else ⟨i, i⟩

/-- The statement or block around a line; none when there is no such line. -/
def blockAround? (lines : List Text) (i : Int) : Option Span :=
  if 0 ≤ i ∧ i < lines.length then some (blockAround lines i.toNat) else none

/-- The comment that takes the place of a block: a line that names the missing
function, and every line of the block behind slashes. -/
def commentOut (lines : List Text) (span : Span) (reference : Text) : Text :=
  let header := "// ERROR: Block commented out due to missing function ".toList ++ reference
  Text.unlines (header :: (Offset.slice span.first (span.last + 1) lines).map ("// ".toList ++ ·))

end Script

end SketchRepair
