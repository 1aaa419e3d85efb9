import SketchRepair.Answer.Fence
import SketchRepair.Repair.Abort
import SketchRepair.Text.Digit
import SketchRepair.Text.Search

/-!
# SketchRepair — patches in an answer

An answer with patches is a JSON array, in a fenced block, bare among prose, or
alone. A single object stands for an array of one. When no JSON can be read,
single fields may still be picked out of the text.
-/

namespace SketchRepair

namespace Answer

/-! ## Arrays -/

/-- The items that a JSON text denotes, when it is an array or a single object. A
number of too many digits aborts. -/
def items? (t : Text) : Except Abort (Option (List Json)) :=
  match Json.parse t with
  | .ok (.arr items) => .ok (some items)
  | .ok (.obj fields) => .ok (some [.obj fields])
  | .ok _ => .ok none
  | .error (.malformed _) => .ok none
  | .error (.tooLong n) => .error (.unreadable (.tooLong n))

/-- Does an array of objects begin here: a bracket, blanks, a brace? -/
def opensArray : Text → Bool
  | '[' :: t => (t.dropWhile isBlank).head? = some '{'
  | _ => false

/-- Does an array of objects end here: a brace, blanks, a bracket? Answers with the
length of that. -/
def closesArray : Text → Option Nat
  | '}' :: t =>
    let gap := t.takeWhile isBlank
    if (t.drop gap.length).head? = some ']' then some (gap.length + 2) else none
  | _ => none

/-- The length of the text up to the last place where an array of objects ends. -/
def lastArrayEnd? : Text → Option Nat
  | [] => none
  | c :: t =>
    match lastArrayEnd? t with
    | some n => some (n + 1)
    | none => closesArray (c :: t)

/-- The text from the first place where an array of objects begins to the last
where one ends. -/
def bareArray? (answer : Text) : Option Text :=
  match Text.search (fun t => if opensArray t then some t else none) answer with
  | none => none
  | some (_, t) => (lastArrayEnd? t).map t.take

/-- The items in the first fenced block. -/
def fencedItems? (answer : Text) : Except Abort (Option (List Json)) :=
  match fencedBlock? (dropLabel ["json".toList]) answer with
  | some body => items? body
  | none => .ok none

/-- The items of a bare array of objects. -/
def bareItems? (answer : Text) : Except Abort (Option (List Json)) :=
  match bareArray? answer with
  | some t => items? t
  | none => .ok none

/-- The items of an answer: those of a fenced block or of a bare array, or else of
the whole answer. `bareFirst` says which of the two forms is tried first. -/
def array? (bareFirst : Bool) (answer : Text) : Except Abort (Option (List Json)) :=
  if answer.isEmpty then .ok none
  else
    let (first, second) :=
      if bareFirst then (bareItems?, fencedItems?) else (fencedItems?, bareItems?)
    match first answer with
    | .error e => .error e
    | .ok (some items) => .ok (some items)
    | .ok none =>
      match second answer with
      | .error e => .error e
      | .ok (some items) => .ok (some items)
      | .ok none => items? (Text.trim answer)

/-- May a text that is read from the answer hold half of a surrogate pair? No text does
where the character that stands for it is not met. -/
def mayHoldHalf (answer : Text) : Bool :=
  [false, true].any fun bareFirst =>
    match array? bareFirst answer with
    | .ok (some items) => items.any fun v => v.nested.contains Json.standIn
    | _ => false

/-- The patches that the items of an answer describe, read one by one; items that
describe none are left out. -/
def collect {α : Type} (read : Json → Except Abort (Option α)) :
    List Json → Except Abort (List α)
  | [] => .ok []
  | v :: vs =>
    match read v with
    | .error e => .error e
    | .ok p => (collect read vs).map (p.toList ++ ·)

/-- The line patches of an array of objects. -/
def linePatches (fixedName : Text) (items : List Json) : Except Abort (List Patch.LinePatch) :=
  collect (fun v => Abort.ofWholeError (Patch.LinePatch.ofJson? fixedName v)) items

/-- The block patches of an array of objects. -/
def blockPatches (items : List Json) : Except Abort (List Patch.BlockPatch) :=
  collect (fun v => Abort.ofWholeError (Patch.BlockPatch.ofJson? v)) items

/-! ## Single fields -/

def isQuote (c : Char) : Bool := c = '"' || c = '\''

/-- What follows the name of a field, a quote that may close the name, and a colon,
with blanks around the colon. -/
def behindField? (name t : Text) : Option Text :=
  match Text.after? name t with
  | none => none
  | some r =>
    let r := if r.head?.any isQuote then r.tail else r
    match r.dropWhile isBlank with
    | ':' :: v => some (v.dropWhile isBlank)
    | _ => none

/-- The quoted value of the field that begins here. -/
def quotedFieldHere (name t : Text) : Option Text :=
  match behindField? name t with
  | some (q :: v) =>
    let value := v.takeWhile fun c => !isQuote c
    if isQuote q && !value.isEmpty && value.length < v.length then some value else none
  | _ => none

/-- The digits of the field that begins here. -/
def digitFieldHere (name t : Text) : Option Text :=
  match behindField? name t with
  | some v =>
    let digits := v.takeWhile isDecimalDigit
    if digits.isEmpty then none else some digits
  | none => none

/-- The value of the first field `name`, quoted or in digits. -/
def fieldValue? (name answer : Text) : Option Text :=
  (Text.find? (quotedFieldHere name) answer).orElse fun _ =>
    Text.find? (digitFieldHere name) answer

end Answer

end SketchRepair
