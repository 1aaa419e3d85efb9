import SketchRepair.Decimal.Whole
import SketchRepair.Text.GroupName
import SketchRepair.Text.Position
import SketchRepair.Text.Quoted

/-!
# SketchRepair — templates for replacements

What takes the place of a match is given as a template. A backslash and the character
behind it are an escape: a control character, a character by its octal number, or a
reference to a group of the match. The searches of the program have no groups, so that
only the group of number zero can be referred to, which is the match itself. Whatever
else is written with letters or digits is a fault; an escape that is none stands for
itself.

Main definitions:

* `tokens` — the characters and escapes of a template;
* `escape` — what an escape stands for;
* `expand` — the replacement that a template makes for a match.
-/

namespace SketchRepair

namespace Text

namespace Template

inductive Token where
  | plain (c : Char)
  /-- A backslash and the character behind it. -/
  | escape (c : Char)
  deriving DecidableEq, Repr

def Token.text : Token → Text
  | plain c => [c]
  | escape c => ['\\', c]

/-- The tokens of a template. A backslash at its end would be plain, but every template of
the program ends with a parenthesis. -/
def tokens : Text → List Token
  | [] => []
  | '\\' :: c :: t => .escape c :: tokens t
  | c :: t => .plain c :: tokens t

/-- What is wrong with a template. -/
inductive Fault where
  | misplaced (complaint : Text) (place : Nat)
  | unknownGroup (name : Text)
  deriving DecidableEq, Repr

namespace Fault

/-- The fault, seen from further ahead. -/
def behind (place : Nat) : Fault → Fault
  | misplaced complaint i => misplaced complaint (place + i)
  | unknownGroup name => unknownGroup name

def message (template : Text) : Fault → Text
  | misplaced complaint place =>
    complaint ++ " at position ".toList ++ Decimal.ofNat place ++
      if template.contains '\n' then
        " (line ".toList ++ Decimal.ofNat (lineAt template place) ++ ", column ".toList ++
          Decimal.ofNat (columnAt template place) ++ [')']
      else []
  | unknownGroup name => "unknown group name ".toList ++ quoted name

end Fault

/-! ## Escapes -/

/-- The character that a letter or a backslash stands for behind a backslash. -/
def controlCharacter? : Char → Option Char
  | 'a' => some '\x07'
  | 'b' => some '\x08'
  | 't' => some '\t'
  | 'n' => some '\n'
  | 'v' => some '\x0b'
  | 'f' => some '\x0c'
  | 'r' => some '\r'
  | '\\' => some '\\'
  | _ => none

def isOctal (c : Char) : Bool := '0' ≤ c && c ≤ '7'

/-- The number that octal digits stand for. -/
def ofOctal (digits : Text) : Nat := digits.foldl (fun n c => 8 * n + (c.toNat - 48)) 0

/-- The greatest number of a character that is given in octal digits. -/
def octalLimit : Nat := 0o377

/-- The plain characters of a kind with which tokens begin. -/
def leading (kind : Char → Bool) : List Token → Text
  | .plain c :: ts => if kind c then c :: leading kind ts else []
  | _ => []

/-- What a zero behind a backslash stands for with the tokens behind it, and the number of
these that belong to it. -/
def zeroEscape (ts : List Token) : Text × Nat :=
  let digits := (leading isOctal ts).take 2
  ([Char.ofNat (ofOctal digits)], digits.length)

/-- The same for any other digit: three octal digits give a character, and everything else
refers to a group. -/
def digitEscape (d : Char) (ts : List Token) : Except Fault (Text × Nat) :=
  let digits := d :: (leading Char.isDigit ts).take 2
  if digits.length = 3 ∧ digits.all isOctal = true then
    if ofOctal digits ≤ octalLimit then .ok ([Char.ofNat (ofOctal digits)], 2)
    else
      .error <| .misplaced
        ("octal escape value \\".toList ++ digits ++ " outside of range 0-0o377".toList) 0
  else .error (.misplaced ("invalid group reference ".toList ++ digits.take 2) 1)

/-- A reference to a group by the name that stands between angles. -/
def groupEscape (word : Text) : List Token → Except Fault (Text × Nat)
  | .plain '<' :: ts =>
    let inside := ts.takeWhile (· ≠ .plain '>')
    let name := inside.flatMap Token.text
    if inside.length = ts.length then
      if name.isEmpty then .error (.misplaced "missing group name".toList 3)
      else .error (.misplaced "missing >, unterminated name".toList 3)
    else if name.isEmpty then .error (.misplaced "missing group name".toList 3)
    else if isGroupName name then .error (.unknownGroup name)
    else
      match Decimal.readInt name with
      | .ok 0 => .ok (word, inside.length + 2)
      | .ok (.ofNat n) =>
        .error (.misplaced ("invalid group reference ".toList ++ Decimal.ofNat n) 3)
      | _ => .error (.misplaced ("bad character in group name ".toList ++ quoted name) 3)
  | _ => .error (.misplaced "missing <".toList 2)

/-- What an escape stands for with the tokens behind it, and the number of these that
belong to it. Faults are placed from the backslash on. -/
def escape (word : Text) (c : Char) (ts : List Token) : Except Fault (Text × Nat) :=
  if c = 'g' then groupEscape word ts
  else if c = '0' then .ok (zeroEscape ts)
  else if c.isDigit then digitEscape c ts
  else
    match controlCharacter? c with
    | some d => .ok ([d], 0)
    | none =>
      if c.isAlpha then .error (.misplaced ("bad escape \\".toList ++ [c]) 0)
      else .ok (['\\', c], 0)

/-! ## Replacements -/

/-- The replacement for the match `word`, from the tokens that begin at `place`; the first
`read` of them belong to an escape before them. -/
def expandFrom (word : Text) : (place read : Nat) → List Token → Except Fault Text
  | _, _, [] => .ok []
  | place, read + 1, t :: ts => expandFrom word (place + t.text.length) read ts
  | place, 0, .plain c :: ts => (expandFrom word (place + 1) 0 ts).map (c :: ·)
  | place, 0, .escape c :: ts =>
    match escape word c ts with
    | .error fault => .error (fault.behind place)
    | .ok (t, read) => (expandFrom word (place + 2) read ts).map (t ++ ·)

/-- The replacement that a template makes for the match `word`, or what is wrong with it. -/
def expand (word template : Text) : Except Text Text :=
  match expandFrom word 0 0 (tokens template) with
  | .ok t => .ok t
  | .error fault => .error (fault.message template)

/-- A template without a backslash is the replacement. -/
theorem expand_of_plain {word template : Text} (h : '\\' ∉ template) :
    expand word template = .ok template := by
  have hFrom (place : Nat) : expandFrom word place 0 (tokens template) = .ok template := by
    induction template generalizing place with
    | nil => rfl
    | cons c t ih =>
      rw [List.mem_cons, not_or] at h
      obtain ⟨hChar, hRest⟩ := h
      have hTokens : tokens (c :: t) = .plain c :: tokens t := by
        rw [tokens]
        rintro d rest rfl
        exact absurd rfl hChar
      rw [hTokens, expandFrom, ih hRest]
      rfl
  rw [expand, hFrom]

example : expand "f".toList "(\\g<0>\\101)".toList = .ok "(fA)".toList := rfl

example : expand "f".toList "(\\g<1>)".toList =
    .error "invalid group reference 1 at position 4".toList := rfl

end Template

end Text

end SketchRepair
