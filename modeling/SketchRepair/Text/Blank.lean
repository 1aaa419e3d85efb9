import SketchRepair.Text.Basic

/-!
# SketchRepair — blank characters

Which characters count as white space, and trimming them off a text. The set is
Unicode's: the ASCII controls from tab to carriage return, the four information
separators, the space, and the spaces and separators beyond ASCII. Zero-width
characters such as U+200B and U+FEFF are not blank.
-/

namespace SketchRepair

def isBlank (c : Char) : Bool :=
  let n := c.toNat
  (9 ≤ n && n ≤ 13) || (0x1C ≤ n && n ≤ 0x20) || n == 0x85 || n == 0xA0 || n == 0x1680 ||
    (0x2000 ≤ n && n ≤ 0x200A) || n == 0x2028 || n == 0x2029 || n == 0x202F || n == 0x205F ||
    n == 0x3000

namespace Text

/-- The text without the blanks it begins with. -/
def trimStart (t : Text) : Text := t.dropWhile isBlank

/-- The text without the blanks it ends with. -/
def trimEnd (t : Text) : Text := (t.reverse.dropWhile isBlank).reverse

/-- The text without the blanks at its two ends. -/
def trim (t : Text) : Text := trimEnd (trimStart t)

/-- Is every character of the text blank? -/
def allBlank (t : Text) : Bool := t.all isBlank

/-- The blanks that a text begins with. -/
def indentation (t : Text) : Text := t.takeWhile isBlank

/-- The maximal runs of characters that are not blank. -/
def chunks (t : Text) : List Text := pieces isBlank t

/-- The text with every run of blanks made one space, and none at its ends. -/
def squeeze (t : Text) : Text := joinWith [' '] (chunks t)

end Text

end SketchRepair
