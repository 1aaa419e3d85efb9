import SketchRepair.Text.Printable

/-!
# SketchRepair — quoted texts

How messages quote a text: single quotes, or double quotes when the text holds
a single quote and no double one. A backslash stands before itself and before
the quote in use, the usual letters stand for tab, line feed and carriage
return, and every other character that cannot be printed is given by its number.
-/

namespace SketchRepair

namespace Text

/-- The lower-case hexadecimal digits of a number, filled up with zeros. -/
def hex (width n : Nat) : Text :=
  let digits := Nat.toDigits 16 n
  List.replicate (width - digits.length) '0' ++ digits

/-- A character as it stands inside quotes. -/
def quotedChar (quote c : Char) : Text :=
  let n := c.toNat
  if c = '\\' ∨ c = quote then ['\\', c]
  else if c = '\t' then ['\\', 't']
  else if c = '\n' then ['\\', 'n']
  else if c = '\r' then ['\\', 'r']
  else if isPrintable c then [c]
  else if n < 0x100 then ['\\', 'x'] ++ hex 2 n
  else if n < 0x10000 then ['\\', 'u'] ++ hex 4 n
  else ['\\', 'U'] ++ hex 8 n

/-- The quote that a text is put into. -/
def quoteFor (t : Text) : Char := if t.contains '\'' && !t.contains '"' then '"' else '\''

def quoted (t : Text) : Text :=
  let quote := quoteFor t
  quote :: t.flatMap (quotedChar quote) ++ [quote]

end Text

end SketchRepair
