import SketchRepair.Text.Blank
import SketchRepair.Text.Search

/-!
# SketchRepair — text that looks like CSS

A text is taken for CSS when it shows a declaration and a rule and no token of
imperative code; a short text must also name one of the common properties.
-/

namespace SketchRepair

namespace Stylesheet

def isLetter (c : Char) : Bool := c.isAlpha

def codeTokens : List Text :=
  ["function ".toList, "var ".toList, "const ".toList, "let ".toList, "return ".toList,
    "if (".toList, "else ".toList, "for (".toList, "while (".toList]

/-- Names that common properties contain. -/
def commonProperties : List Text :=
  ["margin".toList, "padding".toList, "background".toList, "color".toList, "font".toList,
    "width".toList, "height".toList, "position".toList, "display".toList]

/-- Texts below this length must name a common property. -/
def shortLimit : Nat := 100

/-- May the character stand in the value of a declaration? -/
def isValue (c : Char) : Bool := c ≠ ';' && c ≠ '{' && c ≠ '}'

/-- Does a property's last letter, a colon, a value, and the `;` or `}` behind it
stand here? -/
def declarationHere : Text → Bool
  | [] => false
  | c :: t =>
    (isLetter c || c = '-') &&
      match t.dropWhile isBlank with
      | ':' :: v =>
        let rest := v.dropWhile isValue
        rest.length < v.length && (rest.head? = some ';' || rest.head? = some '}')
      | _ => false

def hasDeclaration (t : Text) : Bool := Text.holdsSomewhere declarationHere t

/-- May a selector begin with the character? -/
def opensSelector (c : Char) : Bool := isLetter c || c = '#' || c = '.'

/-- Does the text show a selector, a brace behind it, and a closing brace? -/
def hasRule (t : Text) : Bool :=
  ((t.dropWhile fun c => !opensSelector c).dropWhile (· ≠ '{')).contains '}'

def isLikely (t : Text) : Bool :=
  hasDeclaration t && hasRule t && !Text.hasAny codeTokens t &&
    (shortLimit ≤ t.length || Text.hasAny commonProperties t)

end Stylesheet

end SketchRepair
