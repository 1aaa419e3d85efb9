import SketchRepair.Text.Blank
import SketchRepair.Text.Search
import SketchRepair.Text.Word

/-!
# SketchRepair — declarations inside conditional blocks

A name that is declared only inside a conditional, a loop or a `try` is missing
whenever that body did not run. The scan keeps one entry per open brace: the
keyword that stood before it, if any, since the last brace or the last `;`
outside parentheses.
-/

namespace SketchRepair

namespace Script

/-- The keywords that tell what a brace opens. -/
inductive Keyword where
  | ifWord
  | elseWord
  | forWord
  | whileWord
  | switchWord
  | tryWord
  | catchWord
  | functionWord
  | classWord
  deriving DecidableEq, Repr

namespace Keyword

def text : Keyword → Text
  | ifWord => "if".toList
  | elseWord => "else".toList
  | forWord => "for".toList
  | whileWord => "while".toList
  | switchWord => "switch".toList
  | tryWord => "try".toList
  | catchWord => "catch".toList
  | functionWord => "function".toList
  | classWord => "class".toList

def all : List Keyword :=
  [ifWord, elseWord, forWord, whileWord, switchWord, tryWord, catchWord, functionWord, classWord]

/-- Does the body behind the keyword run only under a condition? -/
def isConditional : Keyword → Bool
  | functionWord => false
  | classWord => false
  | _ => true

/-- The keyword that stands here as a word. -/
def here? (prev : Option Char) (t : Text) : Option Keyword :=
  if isWordAt prev then none
  else all.find? fun k => (Text.after? k.text t).any fun rest => !isWordAt rest.head?

end Keyword

/-- Words that declare a variable. -/
def declarators : List Text := ["var".toList, "let".toList, "const".toList]

/-- Does the text begin with `name`, ended as an identifier ends? -/
def namedHere (name t : Text) : Bool :=
  (Text.after? name t).any fun rest => !rest.head?.any isIdentifier

/-- Does `name` follow after at least one blank, and after blanks only? -/
def namedBehindBlanks (name : Text) : Text → Bool
  | [] => false
  | c :: t => isBlank c && (namedHere name t || namedBehindBlanks name t)

/-- Does a declaration of `name` begin here? -/
def declaresHere (name : Text) (prev : Option Char) (t : Text) : Bool :=
  !isWordAt prev && declarators.any fun d => (Text.after? d t).any (namedBehindBlanks name)

/-- The column of the first declaration of `name` on a line. -/
def declarationColumn? (name line : Text) : Option Nat :=
  ((Text.spans (fun prev t => if declaresHere name prev t then some 0 else none) line).head?).map
    (·.1)

/-- What the scan knows of the blocks around a place. -/
structure Scope where
  /-- The keywords of the open braces, the innermost first. -/
  opened : List (Option Keyword)
  /-- The last keyword since a brace or the end of a statement. -/
  pending : Option Keyword
  depth : Nat
  deriving DecidableEq, Repr

namespace Scope

/-- The scope at the beginning of a script. -/
def outermost : Scope := ⟨[], none, 0⟩

/-- The innermost conditional keyword around the place. -/
def conditional? (s : Scope) : Option Keyword :=
  (s.opened.filterMap id).find? (·.isConditional)

/-- The scope behind a character that begins no keyword. -/
def behind (s : Scope) (c : Char) : Scope :=
  if c = '{' then { s with opened := s.pending :: s.opened, pending := none }
  else if c = '}' then { s with opened := s.opened.tail }
  else if c = '(' then { s with depth := s.depth + 1 }
  else if c = ')' then { s with depth := s.depth - 1 }
  else if c = ';' ∧ s.depth = 0 then { s with pending := none }
  else s

/-- The scope behind the next character of a line. -/
def step (s : Scope) (prev : Option Char) (c : Char) (t : Text) : Scope :=
  match Keyword.here? prev (c :: t) with
  | some k => { s with pending := some k }
  | none => s.behind c

/-- Reads `n` characters of a line, or the whole line when it is shorter. -/
def read : Scope → Nat → Option Char → Text → Scope
  | s, 0, _, _ => s
  | s, _, _, [] => s
  | s, n + 1, prev, c :: t => read (s.step prev c t) n (some c) t

def readLine (s : Scope) (line : Text) : Scope := s.read line.length none line

end Scope

/-- A declaration that runs only under a condition. -/
structure ConditionalDeclaration where
  /-- Line of the script, counted from one. -/
  lineNumber : Nat
  line : Text
  /-- The innermost conditional keyword around the declaration. -/
  block : Keyword
  deriving DecidableEq, Repr

/-- The first conditional declaration of `name` on the lines from number `n` on,
where `s` is the scope before them. Only the first declaration on a line is
looked at. -/
def conditionalFrom (name : Text) : Nat → Scope → List Text → Option ConditionalDeclaration
  | _, _, [] => none
  | n, s, line :: rest =>
    let found :=
      match declarationColumn? name line with
      | none => none
      | some col => (s.read col none line).conditional?
    match found with
    | some k => some ⟨n, line, k⟩
    | none => conditionalFrom name (n + 1) (s.readLine line) rest

/-- The first declaration of `name` in the script that runs only under a
condition. -/
def conditionalDeclaration? (name script : Text) : Option ConditionalDeclaration :=
  conditionalFrom name 1 .outermost (Text.lines script)

end Script

end SketchRepair
