import SketchRepair.Document.OpeningTag
import SketchRepair.Text.Fold
import SketchRepair.Text.Position

/-!
# SketchRepair — script and style elements

A page is taken apart into its elements of one kind and the text around them.
An element begins where its opening tag begins in any letter case, the tag runs
to the next `>`, and the content to the next closing tag. Nothing else of the
page is looked at, so offsets point into the exact text.

Main statements:

* `assemble_dissect` — the gaps, tags and contents of the pieces, put together
  again, are the page;
* `firstPiece?_lt` — behind an element less text is left than before it, which is
  why taking a page apart ends.
-/

namespace SketchRepair

namespace Document

/-- The kinds of element that hold code of their own. -/
inductive Tag where
  | script
  | style
  deriving DecidableEq, Repr

namespace Tag

def name : Tag → Text
  | script => "script".toList
  | style => "style".toList

def opener (tag : Tag) : Text := '<' :: tag.name

def closer (tag : Tag) : Text := ['<', '/'] ++ tag.name ++ ['>']

end Tag

/-! ## One element -/

/-- An opening tag that begins here, and what follows it. -/
def openingTag? (tag : Tag) (t : Text) : Option (Text × Text) :=
  match Text.afterFold? tag.opener t with
  | none => none
  | some r =>
    (Text.upTo? '>' r).map fun (inner, rest) => (t.take tag.opener.length ++ inner ++ ['>'], rest)

/-- A closing tag that begins here, and what follows it. -/
def closingTag? (tag : Tag) (t : Text) : Option (Text × Text) :=
  (Text.afterFold? tag.closer t).map fun rest => (t.take tag.closer.length, rest)

/-- An element with the text before it. -/
structure Piece where
  /-- Text between the element before and this one. -/
  gap : Text
  opening : Text
  content : Text
  closing : Text
  deriving DecidableEq, Repr

def Piece.text (p : Piece) : Text := p.gap ++ p.opening ++ p.content ++ p.closing

/-- Opening tag, content and closing tag of an element that begins here, and what
follows it. -/
def element? (tag : Tag) (t : Text) : Option (Text × Text × Text × Text) :=
  match openingTag? tag t with
  | none => none
  | some (opening, r) =>
    (Text.search (closingTag? tag) r).map fun (content, closing, rest) =>
      (opening, content, closing, rest)

/-- The first element of a text, and what follows it. -/
def firstPiece? (tag : Tag) (t : Text) : Option (Piece × Text) :=
  (Text.search (element? tag) t).map fun (gap, opening, content, closing, rest) =>
    (⟨gap, opening, content, closing⟩, rest)

theorem openingTag?_eq {tag : Tag} {t opening rest : Text}
    (h : openingTag? tag t = some (opening, rest)) : t = opening ++ rest ∧ opening ≠ [] := by
  rw [openingTag?] at h
  split at h
  · simp at h
  · next r hr =>
    obtain ⟨⟨inner, s⟩, hi, he⟩ := Option.map_eq_some_iff.mp h
    obtain ⟨rfl, rfl⟩ : t.take tag.opener.length ++ inner ++ ['>'] = opening ∧ s = rest := by
      simpa using he
    obtain ⟨rfl, -⟩ := Text.upTo?_eq_some.mp hi
    exact ⟨by simpa using (Text.afterFold?_eq_some hr).1, by simp⟩

theorem closingTag?_eq {tag : Tag} {t closing rest : Text}
    (h : closingTag? tag t = some (closing, rest)) : t = closing ++ rest := by
  obtain ⟨r, hr, he⟩ := Option.map_eq_some_iff.mp h
  obtain ⟨rfl, rfl⟩ : t.take tag.closer.length = closing ∧ r = rest := by simpa using he
  exact (Text.afterFold?_eq_some hr).1

theorem element?_eq {tag : Tag} {t opening content closing rest : Text}
    (h : element? tag t = some (opening, content, closing, rest)) :
    t = opening ++ content ++ closing ++ rest ∧ opening ≠ [] := by
  rw [element?] at h
  split at h
  · simp at h
  · next o r ho =>
    obtain ⟨⟨c, d, s⟩, hs, he⟩ := Option.map_eq_some_iff.mp h
    obtain ⟨rfl, rfl, rfl, rfl⟩ : o = opening ∧ c = content ∧ d = closing ∧ s = rest := by
      simpa using he
    obtain ⟨u, rfl, hu⟩ := Text.search_eq_some hs
    obtain ⟨rfl, hne⟩ := openingTag?_eq ho
    exact ⟨by simp [closingTag?_eq hu], hne⟩

theorem firstPiece?_eq {tag : Tag} {t rest : Text} {p : Piece}
    (h : firstPiece? tag t = some (p, rest)) : t = p.text ++ rest ∧ p.opening ≠ [] := by
  obtain ⟨⟨g, o, c, d, s⟩, hs, he⟩ := Option.map_eq_some_iff.mp h
  obtain ⟨rfl, rfl⟩ : Piece.mk g o c d = p ∧ s = rest := by simpa using he
  obtain ⟨u, rfl, hu⟩ := Text.search_eq_some hs
  obtain ⟨rfl, hne⟩ := element?_eq hu
  exact ⟨by simp [Piece.text], hne⟩

/-- Behind an element less text is left than from its gap on. -/
theorem firstPiece?_lt {tag : Tag} {t rest : Text} {p : Piece}
    (h : firstPiece? tag t = some (p, rest)) : rest.length < t.length := by
  obtain ⟨rfl, hne⟩ := firstPiece?_eq h
  have : 0 < p.opening.length := List.length_pos_iff.mpr hne
  simp [Piece.text]
  omega

/-! ## All elements -/

/-- A page as its pieces and the text behind the last of them. -/
def dissect (tag : Tag) (t : Text) : List Piece × Text :=
  match _h : firstPiece? tag t with
  | none => ([], t)
  | some (p, rest) =>
    let (ps, tail) := dissect tag rest
    (p :: ps, tail)
termination_by t.length
decreasing_by exact firstPiece?_lt ‹_›

/-- The page that pieces and a tail make up. -/
def assemble (ps : List Piece) (tail : Text) : Text := ps.flatMap Piece.text ++ tail

/-- Taking a page apart loses nothing. -/
theorem assemble_dissect (tag : Tag) (t : Text) :
    assemble (dissect tag t).1 (dissect tag t).2 = t := by
  fun_induction dissect tag t with
  | case1 t h => simp [assemble]
  | case2 t p rest h ps tail hd ih =>
    rw [hd] at ih
    simp only [assemble, List.flatMap_cons, List.append_assoc] at ih ⊢
    rw [ih, (firstPiece?_eq h).1]

/-- An element and where it stands in its page. -/
structure Element where
  tag : Tag
  opening : Text
  content : Text
  closing : Text
  offset : Nat
  /-- Line of the page on which the element begins. -/
  line : Nat
  deriving DecidableEq, Repr

namespace Element

def text (e : Element) : Text := e.opening ++ e.content ++ e.closing

def contentOffset (e : Element) : Nat := e.offset + e.opening.length

def contentEnd (e : Element) : Nat := e.contentOffset + e.content.length

def endOffset (e : Element) : Nat := e.offset + e.text.length

def lines (e : Element) : List Text := Text.lines e.content

/-- First and last line of the page that the content is said to cover. -/
def lineRange (e : Element) : Nat × Nat := (e.line, e.line + e.lines.length - 1)

def attributes (e : Element) : List Attribute := Document.attributes e.tag.name e.opening

def attribute? (e : Element) (name : Text) : Option Text :=
  (e.attributes.find? (·.name = name)).map (·.value)

/-- Where the element's code is loaded from, if it says so. -/
def source? (e : Element) : Option Text := e.attribute? "src".toList

def isBlank (e : Element) : Bool := Text.allBlank e.content

/-- The page with this element's content replaced. -/
def replaceContent (e : Element) (new page : Text) : Text :=
  page.take e.contentOffset ++ new ++ page.drop e.contentEnd

end Element

/-- The elements of a list of pieces that begins at an offset and line. -/
def locate (tag : Tag) : (offset line : Nat) → List Piece → List Element
  | _, _, [] => []
  | offset, line, p :: ps =>
    let start := line + p.gap.count '\n'
    ⟨tag, p.opening, p.content, p.closing, offset + p.gap.length, start⟩ ::
      locate tag (offset + p.text.length) (line + p.text.count '\n') ps

/-- All elements of one kind, in the order of the page. -/
def elements (tag : Tag) (page : Text) : List Element := locate tag 0 1 (dissect tag page).1

/-- The elements whose content is not blank. -/
def inhabited (tag : Tag) (page : Text) : List Element :=
  (elements tag page).filter (!·.isBlank)

def inlineScripts (page : Text) : List Element := inhabited .script page

/-- The scripts that name something to load, where `source` reads the name from an element. -/
def sourcedScripts (source : Element → Option Text) (page : Text) : List Element :=
  (elements .script page).filter fun e => ((source e).getD []) ≠ []

/-- The scripts that name a source to load. -/
def externalScripts (page : Text) : List Element := sourcedScripts Element.source? page

/-- Does an opening style tag stand anywhere in the page? -/
def hasStyleTag (page : Text) : Bool :=
  Text.holdsSomewhere (fun t => (openingTag? .style t).isSome) page

/-! ## Replacing contents -/

/-- The page with the contents of some of its elements replaced. The last element
goes first, so that the offsets of the others stay right. -/
def replaceContents (updates : List (Element × Text)) (page : Text) : Text :=
  (updates.mergeSort fun a b => b.1.contentOffset ≤ a.1.contentOffset).foldl
    (fun page (e, new) => e.replaceContent new page) page

end Document

end SketchRepair
