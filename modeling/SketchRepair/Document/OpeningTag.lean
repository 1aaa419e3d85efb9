import SketchRepair.Document.Reference
import SketchRepair.Text.Blank
import SketchRepair.Text.LowerCase

/-!
# SketchRepair — opening tags

The attributes of an opening tag. The tag is read leniently, the way browsers
do: a name begins behind a blank, a slash or a quote, may lack a value, and runs
up to a blank, a slash, an equals sign or the end; a value is quoted, or runs up
to a blank or the end. A tag whose reading does not end at its `>` has no
attributes, and neither has a tag of another name than the one asked for.
-/

namespace SketchRepair

namespace Document

/-- An attribute with its value. -/
structure Attribute where
  name : Text
  /-- Value, its references resolved; empty when the tag gives none. -/
  value : Text
  deriving DecidableEq, Repr

/-! ## Reading a tag -/

/-- The rest behind blanks, and behind slashes that do not stand before `>`. -/
def skipGap : Text → Text
  | [] => []
  | c :: t =>
    if isBlank c then skipGap t
    else if c = '/' ∧ t.head? ≠ some '>' then skipGap t
    else c :: t

/-- May a value that is not quoted contain the character? -/
def isBareValue (c : Char) : Bool := c ≠ '>' && !isBlank c

/-- The value behind an attribute's name: equals signs, then a quoted value or a
bare one. When a quote is never closed, the value is empty if a blank stands
before the quote, and begins with the last equals sign if several stand there. -/
def assigned? (t : Text) : Option (Text × Text) :=
  let t := t.dropWhile isBlank
  let signs := t.takeWhile (· = '=')
  if signs.isEmpty then none
  else
    let behind := t.drop signs.length
    let gap := behind.takeWhile isBlank
    let rest := behind.drop gap.length
    let bare (t : Text) : Text × Text := (t.takeWhile isBareValue, t.dropWhile isBareValue)
    -- an unclosed quote makes the match give back what it had taken last
    let unclosed : Option (Text × Text) :=
      if !gap.isEmpty then some ([], rest)
      else if 2 ≤ signs.length then some (bare ('=' :: rest))
      else none
    match rest with
    | '\'' :: r => (Text.upTo? '\'' r).orElse fun _ => unclosed
    | '"' :: r => (Text.upTo? '"' r).orElse fun _ => unclosed
    | r => some (bare r)

/-- May an attribute's name continue with the character? -/
def isAttributeName (c : Char) : Bool := !isBlank c && c ≠ '/' && c ≠ '=' && c ≠ '>'

/-- May a name begin behind this character? -/
def opensName (c : Char) : Bool := c = '\'' || c = '"' || c = '/' || isBlank c

/-- The attributes from a place in the tag on, and what is left of the tag. The
arguments are the characters allowed to be read and the character before the
place. -/
def readAttributes : Nat → Char → Text → List (Text × Option Text) × Text
  | 0, _, t => ([], t)
  | _ + 1, _, [] => ([], [])
  | fuel + 1, prev, c :: t =>
    if opensName prev && !isBlank c && c ≠ '/' && c ≠ '>' then
      let name := c :: t.takeWhile isAttributeName
      let behind := t.drop (name.length - 1)
      let (value, rest) :=
        match assigned? behind with
        | some (v, r) => (some v, r)
        | none => (none, behind)
      -- whether another name may begin depends on the last character read
      let next := skipGap rest
      let read := (c :: t).take ((c :: t).length - next.length)
      let (attributes, left) := readAttributes fuel (read.getLastD prev) next
      ((name, value) :: attributes, left)
    else ([], c :: t)

/-- May a tag's name continue with the character? -/
def isTagName (c : Char) : Bool :=
  !(c = '\t' || c = '\n' || c = '\r' || c = '\x0c' || c = ' ' || c = '/' || c = '>' || c = '\x00')

/-- The attributes of a tag as they are written, if it is the opening tag of an
element `tag`. -/
def writtenAttributes (tag opening : Text) : List (Text × Option Text) :=
  match opening with
  | '<' :: c :: t =>
    let name := c :: t.takeWhile isTagName
    let next := skipGap (t.drop (name.length - 1))
    let read := (c :: t).take ((c :: t).length - next.length)
    let (attributes, left) := readAttributes (t.length + 1) (read.getLastD c) next
    if c.isAlpha && Text.toLower name = tag && (left = ['>'] || left = ['/', '>']) then attributes
    else []
  | _ => []

/-! ## Values -/

/-- Attributes whose value is a list of words. -/
def wordLists : List Text := ["class".toList, "accesskey".toList, "dropzone".toList]

/-- The attributes with `name` given a value: in its old place when the name is
present, at the end otherwise. -/
def putAttribute (name value : Text) : List Attribute → List Attribute
  | [] => [⟨name, value⟩]
  | a :: rest => if a.name = name then ⟨name, value⟩ :: rest else a :: putAttribute name value rest

/-- The value an attribute has in the end: references resolved, and a list of
words with single spaces. -/
def attributeValue (name value : Text) : Text :=
  let resolved := resolveReferences value
  if wordLists.contains name then Text.squeeze resolved else resolved

/-- The attributes of the opening tag of an element `tag`. A repeated name keeps
its place and takes the later value. -/
def attributes (tag opening : Text) : List Attribute :=
  (writtenAttributes tag opening).foldl
    (fun done (name, value) =>
      let name := Text.toLower name
      putAttribute name (attributeValue name (value.getD [])) done) []

end Document

end SketchRepair
