import SketchRepair.Document.Element
import SketchRepair.Stylesheet.Likely

/-!
# SketchRepair — CSS outside of style elements

Generated pages sometimes carry bare CSS. Where a rule for `body` directly
follows a closing script or title tag, a meta tag or the head tag, it is put into
a style element; wrapping one region often exposes the next, so the page is
scanned again, up to a limit. When that found nothing and the page has no style
element at all, one set of rules that stands alone is moved to the end of the
head.
-/

namespace SketchRepair

namespace Document

def styleElement (css : Text) : Text := "<style>\n".toList ++ css ++ "\n</style>".toList

/-! ## Rules behind a tag of the head -/

/-- Does a tag begin here, or the text end, a last line feed aside? -/
def endsRegion (t : Text) : Bool :=
  match t with
  | [] => true
  | ['\n'] => true
  | '<' :: '/' :: c :: _ => isWord c
  | '<' :: c :: _ => isWord c
  | _ => false

/-- The text up to the first place where a tag begins, or to its end. -/
def regionRest : Text → Text
  | [] => []
  | c :: t => if endsRegion (c :: t) then [] else c :: regionRest t

/-- The body of a rule up to its closing brace, which is included; it has at least
one character and no `<`. -/
def ruleBody? : Text → Option Text
  | [] => none
  | c :: t =>
    match Text.upTo? '}' t with
    | none => none
    | some (body, _) => if c = '<' ∨ body.contains '<' then none else some (c :: body ++ ['}'])

/-- A rule for `body` that begins here, with everything up to the next tag. -/
def bodyRegion? (t : Text) : Option Text :=
  match Text.after? "body".toList t with
  | none => none
  | some r =>
    let gap := r.takeWhile isBlank
    match r.drop gap.length with
    | '{' :: s =>
      (ruleBody? s).map fun rule =>
        "body".toList ++ gap ++ ['{'] ++ rule ++ regionRest (s.drop rule.length)
    | _ => none

/-- The tags behind which bare CSS is looked for. -/
inductive Anchor where
  | scriptEnd
  | titleEnd
  | metaTag
  | headTag
  deriving DecidableEq, Repr

namespace Anchor

/-- All anchors, in the order in which they are tried. -/
def all : List Anchor := [scriptEnd, titleEnd, metaTag, headTag]

/-- What follows the anchor, if it stands here. -/
def after? : Anchor → Text → Option Text
  | scriptEnd, t => Text.after? "</script>".toList t
  | titleEnd, t => Text.after? "</title>".toList t
  | metaTag, t =>
    match Text.after? "<meta".toList t with
    | none => none
    | some r => (Text.upTo? '>' r).map (·.2)
  | headTag, t => Text.after? "<head>".toList t

/-- The bare region behind the anchor, if both stand here: the text before the
region from here on, and the region. -/
def region? (a : Anchor) (t : Text) : Option (Text × Text) :=
  match a.after? t with
  | none => none
  | some r =>
    let r := r.dropWhile isBlank
    (bodyRegion? r).map fun css => (t.take (t.length - r.length), css)

end Anchor

/-- A page around a region: the text before it, the region, and the text behind. -/
abbrev Split := Text × Text × Text

/-- The first region behind an anchor. -/
def anchored? (a : Anchor) (page : Text) : Option Split :=
  (Text.search a.region? page).map fun (before, lead, css) =>
    let front := before ++ lead
    (front, css, page.drop (front.length + css.length))

/-- The region that is wrapped next: the first one behind the first anchor where
that region looks like CSS. -/
def nextRegion? (page : Text) : Option Split :=
  Anchor.all.findSome? fun a => (anchored? a page).filter fun (_, css, _) => Stylesheet.isLikely css

/-- The page with up to `limit` regions wrapped in place, and their number. -/
def wrapRegions : (limit : Nat) → Text → Text × Nat
  | 0, page => (page, 0)
  | limit + 1, page =>
    match nextRegion? page with
    | none => (page, 0)
    | some (before, css, behind) =>
      let (page, n) := wrapRegions limit (before ++ styleElement css ++ behind)
      (page, n + 1)

/-! ## Rules that stand alone -/

/-- A character of the name behind `#` or `.` in a selector. -/
def isSelectorName (c : Char) : Bool := isWord c || c = '-'

/-- May the character stand in a selector behind its beginning? -/
def isSelectorRest (c : Char) : Bool := c ≠ '{' && c ≠ '<' && c ≠ '>'

/-- The rest of a selector and the rule behind it, up to its closing brace. The
rule has at least one character. -/
def selectorAndRule? (t : Text) : Option Text :=
  let selector := t.takeWhile isSelectorRest
  match t.drop selector.length with
  | '{' :: s =>
    let body := s.takeWhile (· ≠ '}')
    if body.isEmpty ∨ body.length = s.length then none
    else some (selector ++ ['{'] ++ body ++ ['}'])
  | _ => none

/-- The beginning of a selector that may open a set of rules: `body`, `html`, or a
name behind `#` or `.`. -/
def leadSelector? (t : Text) : Option Text :=
  if Text.startsWith "body".toList t || Text.startsWith "html".toList t then some (t.take 4)
  else
    match t with
    | c :: r =>
      let name := r.takeWhile isSelectorName
      if (c = '#' ∨ c = '.') ∧ !name.isEmpty then some (c :: name) else none
    | [] => none

/-- May the selector of a further rule begin with the character? -/
def opensFurtherRule (c : Char) : Bool := isWord c || c = '.' || c = '#' || c = '*' || c = ':'

/-- The further rules that begin here. The first argument bounds their number. -/
def furtherRules : Nat → Text → Text
  | 0, _ => []
  | n + 1, t =>
    let gap := t.takeWhile isBlank
    match t.drop gap.length with
    | c :: r =>
      if opensFurtherRule c then
        match selectorAndRule? r with
        | some rule =>
          let whole := gap ++ [c] ++ rule
          whole ++ furtherRules n (t.drop whole.length)
        | none => []
      else []
    | [] => []

/-- A set of rules that begins here, with the blanks before it. -/
def ruleSet? (t : Text) : Option Text :=
  let gap := t.takeWhile isBlank
  match leadSelector? (t.drop gap.length) with
  | none => none
  | some lead =>
    (selectorAndRule? (t.drop (gap.length + lead.length))).map fun rule =>
      let whole := gap ++ lead ++ rule
      whole ++ furtherRules t.length (t.drop whole.length)

/-- A set of rules behind a line end that stands here. -/
def ruleSetBehindLine? : Text → Option (Text × Text)
  | c :: t => if c = '\n' ∨ c = '\r' then (ruleSet? t).map ([c], ·) else none
  | [] => none

/-- The first set of rules that stands at the beginning of the page or behind a
line end. -/
def standalone? (page : Text) : Option Split :=
  match ruleSet? page with
  | some css => some ([], css, page.drop css.length)
  | none =>
    (Text.search ruleSetBehindLine? page).map fun (before, lead, css) =>
      let front := before ++ lead
      (front, css, page.drop (front.length + css.length))

/-- Is the character a line feed or a carriage return? -/
def isLineEnd (c : Char) : Bool := c = '\n' || c = '\r'

/-- The text without the line ends at its two ends. -/
def trimLineEnds (t : Text) : Text :=
  ((t.dropWhile isLineEnd).reverse.dropWhile isLineEnd).reverse

/-- The page with its standing-alone rules moved into a style element before the
end of the head, or before the body, or left in their place. -/
def wrapStandalone? (page : Text) : Option Text :=
  match standalone? page with
  | none => none
  | some (before, css, behind) =>
    if Stylesheet.isLikely css then
      -- both anchors are looked for in the page without the rules
      let styled := styleElement (trimLineEnds css)
      let remaining := before ++ behind
      if Text.has "</head>".toList remaining then
        some (Text.replaceFirst "</head>".toList (styled ++ "\n</head>".toList) remaining)
      else if Text.has "<body".toList remaining then
        some (Text.replaceFirst "<body".toList (styled ++ "\n<body".toList) remaining)
      else some (before ++ styled ++ behind)
    else none

/-- The page with its bare CSS wrapped, and the number of regions wrapped. -/
def wrapBareStyle (limit : Nat) (page : Text) : Text × Nat :=
  let (wrapped, n) := wrapRegions limit page
  if n = 0 ∧ !hasStyleTag wrapped then
    match wrapStandalone? wrapped with
    | some moved => (moved, 1)
    | none => (wrapped, 0)
  else (wrapped, n)

end Document

end SketchRepair
