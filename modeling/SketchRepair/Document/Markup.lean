import SketchRepair.Text.Blank
import SketchRepair.Text.Fold
import SketchRepair.Text.LowerCase
import SketchRepair.Text.Search

/-!
# SketchRepair — encoded head markup

Generated pages sometimes carry their head markup with its angle brackets
encoded as `&lt;` and `&gt;`. Three replacements, one after the other, restore it:
encoded script tags that name a source, encoded titles whose tag lost its name,
and every other encoded tag of a fixed list of names. Encoded tags of other
names are left alone, because they are meant to be read.
-/

namespace SketchRepair

namespace Document

/-! ## Scripts -/

/-- What follows blanks and then `p` in any letter case; the text itself when they
do not stand there. -/
def skipFold (p t : Text) : Text := (Text.afterFold? p (t.dropWhile isBlank)).getD t

/-- What follows an encoded closing script tag, blanks allowed before it and before
its end; the text itself when none stands there. -/
def skipEncodedCloser (t : Text) : Text :=
  match Text.afterFold? "&lt;/script".toList (t.dropWhile isBlank) with
  | none => t
  | some r => (Text.afterFold? "&gt;".toList (r.dropWhile isBlank)).getD t

/-- An encoded script tag that begins here, as the element it stands for, and what
follows it. -/
def encodedScript? (t : Text) : Option (Text × Text) :=
  match Text.afterFold? "&lt;".toList t with
  | none => none
  | some r =>
    let r := skipFold "script".toList r
    match Text.afterFold? "src=\"".toList (r.dropWhile isBlank) with
    | none => none
    | some r =>
      match Text.upTo? '"' r with
      | none => none
      | some (url, rest) =>
        if url.isEmpty then none
        else
          some ("<script src=\"".toList ++ url ++ "\"></script>".toList,
            skipEncodedCloser (skipFold "&gt;".toList rest))

/-! ## Titles -/

/-- May the character stand in a title? -/
def isTitleChar (c : Char) : Bool := c ≠ '<' && c ≠ '&'

/-- What follows a closing title tag, encoded or not; the text itself when none
stands there. -/
def skipTitleCloser (t : Text) : Text :=
  ((Text.afterFold? "</title>".toList t).orElse fun _ =>
    Text.afterFold? "&lt;/title&gt;".toList t).getD t

/-- An encoded tag without a name that begins here, as the title it stands for, and
what follows it. The title is not empty: if nothing but blanks stands there, the
last of them is the title. -/
def encodedTitle? (t : Text) : Option (Text × Text) :=
  match Text.afterFold? "&lt;".toList t with
  | none => none
  | some r =>
    match Text.afterFold? "&gt;".toList (r.dropWhile isBlank) with
    | none => none
    | some r =>
      let gap := r.takeWhile isBlank
      let title := (r.drop gap.length).takeWhile isTitleChar
      let rest := (r.drop gap.length).drop title.length
      -- the title takes back one blank rather than be empty
      let title := if title.isEmpty then gap.drop (gap.length - 1) else title
      if title.isEmpty then none
      else some ("<title>".toList ++ title ++ "</title>".toList, skipTitleCloser rest)

/-! ## Other tags -/

/-- Names of the tags that are restored, a slash before those of closing tags. -/
def restoredTags : List Text :=
  ["script".toList, "/script".toList, "title".toList, "/title".toList, "style".toList,
    "/style".toList, "link".toList, "meta".toList]

/-- The name of a tag, which may have a slash before it, and what follows it. -/
def tagName (t : Text) : Text × Text :=
  let slash : Text := if t.head? = some '/' then ['/'] else []
  let letters := (t.drop slash.length).takeWhile Char.isAlpha
  (slash ++ letters, t.drop (slash.length + letters.length))

/-- An encoded tag of a name on the list that begins here, as the tag it stands
for, and what follows it. -/
def encodedTag? (t : Text) : Option (Text × Text) :=
  match Text.after? "&lt;".toList t with
  | none => none
  | some r =>
    let (name, r) := tagName r
    let body := r.takeWhile (· ≠ '&')
    match Text.after? "&gt;".toList (r.drop body.length) with
    | none => none
    | some rest =>
      if restoredTags.contains (Text.toLower name) then
        some (['<'] ++ name ++ body ++ ['>'], rest)
      else none

/-! ## All three -/

/-- The page with its encoded head markup restored, and the number of replacements. -/
def restoreMarkup (page : Text) : Text × Nat :=
  let (page, scripts) := Text.replaceEach encodedScript? page
  let (page, titles) := Text.replaceEach encodedTitle? page
  let (page, tags) := Text.replaceEach encodedTag? page
  (page, scripts + titles + tags)

end Document

end SketchRepair
