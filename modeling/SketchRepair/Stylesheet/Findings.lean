import SketchRepair.Decimal.Whole
import SketchRepair.Text.Blank
import SketchRepair.Text.Search

/-!
# SketchRepair — what is wrong with a style sheet

Checks the shape of a style sheet line by line, without parsing it, and lists
what it finds. A single finding in a sheet that otherwise shows a selector, a
property and a value is taken for a false alarm.
-/

namespace SketchRepair

namespace Stylesheet

/-- Something that is wrong with a style sheet. -/
inductive Finding where
  /-- The sheet begins with a declaration. -/
  | noSelector
  /-- Braces do not come in pairs. -/
  | unevenBraces (opened closed : Nat)
  /-- A line begins with a value. -/
  | valueWithoutProperty
  /-- A line inside a rule begins with a colon. -/
  | missingName
  /-- A line holds more than one colon. -/
  | manyColons (line : Nat) (text : Text)
  /-- A line goes on behind a call. -/
  | misplacedSemicolon (line : Nat) (text : Text)
  /-- A rule holds a line that is no declaration, or one without its semicolon. -/
  | brokenRule (line : Nat)
  deriving DecidableEq, Repr

def Finding.message : Finding → Text
  | noSelector => "Found property declaration without selector".toList
  | unevenBraces opened closed =>
    "Unbalanced braces: ".toList ++ Decimal.ofNat opened ++ " opening vs ".toList ++
      Decimal.ofNat closed ++ " closing".toList
  | valueWithoutProperty => "Found property value without property name".toList
  | missingName => "Found property with missing name".toList
  | manyColons line text =>
    "Multiple colons in property at line ".toList ++ Decimal.ofNat line ++ ": ".toList ++ text
  | misplacedSemicolon line text =>
    "Possible misplaced semicolon in function call at line ".toList ++ Decimal.ofNat line ++
      ": ".toList ++ text
  | brokenRule line =>
    "Rule ending at line ".toList ++ Decimal.ofNat line ++ " has property syntax errors".toList

/-! ## The sheet as a whole -/

def isNameChar (c : Char) : Bool := c.isAlphanum || c = '_' || c = '-'

def isSelectorChar (c : Char) : Bool := isNameChar c || c = '#' || c = '.' || c = ':'

/-- Do name characters, blanks and a colon stand here? -/
def propertyHere (t : Text) : Bool :=
  let rest := t.dropWhile isNameChar
  rest.length < t.length && (rest.dropWhile isBlank).head? = some ':'

/-- Does the sheet begin with a declaration? -/
def beginsWithProperty (css : Text) : Bool := propertyHere (css.dropWhile isBlank)

/-- Does a colon stand here, then at least `n` characters other than `;`, and a `;`? -/
def valueHere (n : Nat) : Text → Bool
  | ':' :: t =>
    let value := t.takeWhile (· ≠ ';')
    n ≤ value.length && value.length < t.length
  | _ => false

/-- Does a value without a name begin the text, its colon followed by a blank? -/
def namelessHere (t : Text) : Bool :=
  let t := t.dropWhile isBlank
  valueHere 2 t && t[1]?.any isBlank

/-- Does a line of the text, from which the text begins, begin with a value? -/
def hasNamelessValue (css : Text) : Bool :=
  namelessHere css ||
    Text.holdsSomewhere (fun t => t.head? = some '\n' && namelessHere t.tail) css

/-- Does a nameless value stand on a later line of the rule that is open here? -/
def namelessInRule : Text → Bool
  | [] => false
  | c :: t =>
    c ≠ '}' && ((c = '\n' && valueHere 1 (t.dropWhile isBlank)) || namelessInRule t)

/-- Does a line inside a rule begin with a colon and a value? -/
def hasMissingName (css : Text) : Bool :=
  Text.holdsSomewhere (fun t => t.head? = some '{' && namelessInRule t.tail) css

/-- The findings about the sheet as a whole. -/
def sheetFindings (css : Text) : List Finding :=
  let opened := css.count '{'
  let closed := css.count '}'
  (if beginsWithProperty css then [.noSelector] else []) ++
    (if opened ≠ closed then [.unevenBraces opened closed] else []) ++
    (if hasNamelessValue css then [.valueWithoutProperty] else []) ++
    (if hasMissingName css then [.missingName] else [])

/-! ## Single lines -/

/-- Does a line, trimmed, hold too many colons? Selectors of pseudo-elements and
conditions of at-rules are left out. -/
def hasManyColons (line : Text) : Bool :=
  !line.isEmpty && !Text.startsWith ['{'] line && !Text.startsWith ['}'] line &&
    !Text.startsWith ['@'] line && !Text.has "::".toList line && !Text.has "@media".toList line &&
    !Text.has "@supports".toList line && 1 < line.count ':'

/-- Does a line, trimmed, go on behind the end of a call? -/
def hasMisplacedSemicolon (line : Text) : Bool :=
  line.contains '(' && Text.has ");".toList line && !Text.endsWith ");".toList line

/-- The findings on the trimmed line number `n`. -/
def lineFindings (n : Nat) (line : Text) : List Finding :=
  (if hasManyColons line then [.manyColons n line] else []) ++
    (if hasMisplacedSemicolon line then [.misplacedSemicolon n line] else [])

/-! ## Rules -/

/-- Where the walk over the lines stands. -/
structure RuleState where
  inside : Bool
  /-- Was a broken declaration seen in it? -/
  broken : Bool
  deriving DecidableEq, Repr

/-- Is the trimmed line a comment, or the end of one? -/
def isComment (line : Text) : Bool :=
  Text.startsWith "/*".toList line || Text.endsWith "*/".toList line ||
    Text.startsWith "//".toList line

/-- Is the trimmed line, inside a rule, no proper declaration, given the next line
that is not blank? Only before a closing brace may the semicolon be missing. -/
def isBrokenDeclaration (line : Text) (next : Option Text) : Bool :=
  !line.contains ':' ||
    next.any fun following => !following.contains '}' && !Text.endsWith [';'] line

/-- The findings about the rules on trimmed lines from number `n` on. -/
def ruleFindings : Nat → RuleState → List Text → List Finding
  | _, _, [] => []
  | n, s, line :: rest =>
    if line.isEmpty then ruleFindings (n + 1) s rest
    else if line.contains '{' then ruleFindings (n + 1) ⟨true, false⟩ rest
    else if line.contains '}' then
      (if s.broken then [.brokenRule n] else []) ++ ruleFindings (n + 1) ⟨false, false⟩ rest
    else if s.inside && !isComment line && isBrokenDeclaration line (rest.find? (!·.isEmpty)) then
      ruleFindings (n + 1) { s with broken := true } rest
    else ruleFindings (n + 1) s rest

/-! ## The verdict -/

def findings (css : Text) : List Finding :=
  let lines := (Text.lines css).map Text.trim
  sheetFindings css ++ (lines.zipIdx 1).flatMap (fun (line, n) => lineFindings n line) ++
    ruleFindings 1 ⟨false, false⟩ lines

/-- Does the sheet show a plain selector and a brace behind it? -/
def showsSelector (css : Text) : Bool :=
  Text.holdsSomewhere
    (fun t => t.head?.any isSelectorChar && Text.startsWith " \x7b".toList t.tail) css

/-- Does the sheet show a property behind a blank? -/
def showsProperty (css : Text) : Bool :=
  Text.holdsSomewhere (fun t => t.head?.any isBlank && propertyHere t.tail) css

def showsValue (css : Text) : Bool := Text.holdsSomewhere (valueHere 1) css

/-- What is to be done about a style sheet. -/
structure Verdict where
  findings : List Finding
  /-- Is the only finding taken for a false alarm? -/
  suppressed : Bool
  deriving DecidableEq, Repr

namespace Verdict

def isFaulty (v : Verdict) : Bool := !v.findings.isEmpty && !v.suppressed

def details (v : Verdict) : List Text := v.findings.map Finding.message

end Verdict

def validate (css : Text) : Verdict :=
  let found := findings css
  ⟨found, found.length == 1 && showsSelector css && showsProperty css && showsValue css⟩

end Stylesheet

end SketchRepair
