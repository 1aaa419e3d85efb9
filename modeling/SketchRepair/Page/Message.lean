import SketchRepair.Decimal.Whole
import SketchRepair.Script.Call
import SketchRepair.Text.Blank
import SketchRepair.Text.Fold
import SketchRepair.Text.Search

/-!
# SketchRepair — what error messages name

Names, functions, lines and addresses are read out of the texts of errors, in
any letter case. A name is always taken whole: it is the longest run of name
characters before the words that tell what is wrong with it.
-/

namespace SketchRepair

namespace Page

/-! ## Names -/

/-- A character of a plain identifier, in any letter case. -/
def isNameChar (c : Char) : Bool := (fold c).isAlphanum || c = '_' || c = '$'

/-- A character of a reference: names joined by points. -/
def isReferenceChar (c : Char) : Bool := isNameChar c || c = '.'

/-- A run of characters of one kind that stands here and is followed by `phrase`,
and what follows that. -/
def subjectHere (kind : Char → Bool) (phrase : Text) (t : Text) : Option (Text × Text) :=
  let run := t.takeWhile kind
  if run.isEmpty then none
  else (Text.afterFold? phrase (t.drop run.length)).map fun rest => (run, rest)

def undefinedPhrase : Text := " is not defined".toList

/-- The words behind something that is no function. -/
def notAFunctionPhrase : Text := " is not a function".toList

/-- The variable that a message calls undefined. -/
def undefinedName? (message : Text) : Option Text :=
  (Text.find? (subjectHere isNameChar undefinedPhrase) message).map (·.1)

/-! ## Functions -/

/-- What stands before and after the last point of a reference. -/
def cutAtLastPoint? (reference : Text) : Option (Text × Text) :=
  (Text.upTo? '.' reference.reverse).map fun (last, front) => (front.reverse, last.reverse)

/-- Object and function of a reference; a plain name is a global function. -/
def splitReference (reference : Text) : Script.MissingFunction :=
  match cutAtLastPoint? reference with
  | some (object, function) => ⟨object, function⟩
  | none => ⟨Script.globalObject, reference⟩

/-- Object and function of a reference that names both. -/
def splitMember? (reference : Text) : Option Script.MissingFunction :=
  match cutAtLastPoint? reference with
  | some (object, function) =>
    if object.isEmpty ∨ function.isEmpty then none else some ⟨object, function⟩
  | none => none

/-- The function that a message is first about. -/
def plainReference? (message : Text) : Option Script.MissingFunction :=
  (Text.find? (subjectHere isReferenceChar notAFunctionPhrase) message).map fun (r, _) =>
    splitReference r

/-- The member function named directly behind the kind of error. -/
def typedReference? (message : Text) : Option Script.MissingFunction :=
  Text.find? (fun t =>
    match Text.afterFold? "typeerror: ".toList t with
    | none => none
    | some r =>
      match subjectHere isReferenceChar notAFunctionPhrase r with
      | none => none
      | some (reference, _) => splitMember? reference) message

/-- A member function that stands here and is said to be no function, and the
length of all that; the article may be missing, and empty parentheses may follow
the name. -/
def memberHere (t : Text) : Option (Script.MissingFunction × Nat) :=
  let reference := t.takeWhile isReferenceChar
  match splitMember? reference with
  | none => none
  | some f =>
    let r := t.drop reference.length
    let r := (Text.after? "()".toList r).getD r
    match Text.afterFold? " is not ".toList r with
    | none => none
    | some r =>
      -- the article may be missing
      let r := (Text.afterFold? "a ".toList r).getD r
      (Text.afterFold? "function".toList r).map fun rest => (f, t.length - rest.length)

/-- All member functions that a message says are no functions. -/
def memberReferences (message : Text) : List Script.MissingFunction :=
  (Text.spans (fun _ t => (memberHere t).map (·.2)) message).filterMap fun (i, _) =>
    (memberHere (message.drop i)).map (·.1)

/-- The functions that a message calls missing, each once, in the order in which
they are found. -/
def missingFunctions (message : Text) : List Script.MissingFunction :=
  ((plainReference? message).toList ++ (typedReference? message).toList ++
    memberReferences message).eraseDups

/-! ## Lines -/

/-- A run of digits here, and what follows it. -/
def digitsHere (t : Text) : Option (Text × Text) :=
  let run := t.takeWhile isDecimalDigit
  if run.isEmpty then none else some (run, t.drop run.length)

/-- The line of a place `:line:column` that begins here. -/
def placeHere : Text → Option Text
  | ':' :: t =>
    match digitsHere t with
    | some (line, ':' :: rest) => (digitsHere rest).map fun _ => line
    | _ => none
  | _ => none

/-- The digits behind the word `line` that begins here. -/
def lineWordHere (t : Text) : Option Text :=
  match Text.afterFold? "line".toList t with
  | none => none
  | some r =>
    let rest := r.dropWhile isBlank
    if rest.length < r.length then (digitsHere rest).map (·.1) else none

/-- The number that a run of digits denotes. -/
def lineOfDigits (digits : Text) : Except Decimal.ReadError Nat :=
  Decimal.readDigits (digits.filterMap digitValue?)

/-- The line that a stack names, or else a message, if any does. -/
def lineNumber? (stack message : Option Text) : Except Decimal.ReadError (Option Nat) :=
  match (stack.bind (Text.find? placeHere)).orElse
      fun _ => message.bind (Text.find? lineWordHere) with
  | some digits => (lineOfDigits digits).map some
  | none => .ok none

/-! ## Addresses -/

/-- What follows the protocol, if one stands here. -/
def skipProtocol (after? : Text → Text → Option Text) (t : Text) : Text :=
  ((after? "http:".toList t).orElse fun _ => after? "https:".toList t).getD t

/-- An address that begins here: an optional protocol, two slashes, and at least
one character of the given kind. -/
def addressHere (after? : Text → Text → Option Text) (kind : Char → Bool) (t : Text) :
    Option Text :=
  match Text.after? "//".toList (skipProtocol after? t) with
  | none => none
  | some r =>
    let rest := r.dropWhile kind
    if rest.length < r.length then some (t.take (t.length - rest.length)) else none

/-- An address in double quotes that begins here. -/
def quotedAddressHere : Text → Option Text
  | '"' :: t =>
    match addressHere Text.after? (· ≠ '"') t with
    | some url => if url.length < t.length then some url else none
    | none => none
  | _ => none

def addressWords : List Text :=
  ["from".toList, "at".toList, "resource:".toList, "loading".toList]

/-- An address behind one of the words and blanks. -/
def announcedAddressHere (t : Text) : Option Text :=
  addressWords.findSome? fun w =>
    match Text.afterFold? w t with
    | none => none
    | some r =>
      let rest := r.dropWhile isBlank
      if rest.length < r.length then addressHere Text.afterFold? (fun c => !isBlank c) rest
      else none

/-- An address anywhere, up to a blank or a quote. -/
def plainAddressHere (t : Text) : Option Text :=
  addressHere Text.afterFold? (fun c => !isBlank c && c ≠ '"' && c ≠ '\'') t

/-- The first address in a message: one in quotes, else one behind an announcing
word, else any. -/
def address? (message : Text) : Option Text :=
  ((Text.find? quotedAddressHere message).orElse fun _ =>
    Text.find? announcedAddressHere message).orElse fun _ => Text.find? plainAddressHere message

end Page

end SketchRepair
