import SketchRepair.Text.Digit
import SketchRepair.Text.Quoted

/-!
# SketchRepair — command line arguments

The command takes one file and two switches. A switch has a short and a long name;
short ones may be run together, long ones cut short as long as they stay distinct.
Behind `--` everything is a file. All arguments are sorted into files and switches
before the first of them takes effect, and the switch for help acts on the spot.
-/

namespace SketchRepair

namespace Command

inductive Switch where
  | help
  | verbose
  deriving DecidableEq, Repr

namespace Switch

def all : List Switch := [help, verbose]

def letter : Switch → Char
  | help => 'h'
  | verbose => 'v'

def long : Switch → Text
  | help => "--help".toList
  | verbose => "--verbose".toList

def names (s : Switch) : Text := ['-', s.letter, '/'] ++ s.long

def ofLetter? (c : Char) : Option Switch := all.find? (·.letter = c)

end Switch

/-- What is wrong with the arguments. -/
inductive Misuse where
  /-- A long name is cut so short that it fits several. -/
  | ambiguous (argument : Text) (candidates : List Switch)
  | value (switch : Switch) (text : Text)
  | unrecognized (arguments : List Text)
  deriving DecidableEq, Repr

def Misuse.message : Misuse → Text
  | ambiguous argument candidates =>
    "ambiguous option: ".toList ++ argument ++ " could match ".toList ++
      Text.joinWith ", ".toList (candidates.map Switch.long)
  | value switch text =>
    "argument ".toList ++ switch.names ++ ": ignored explicit argument ".toList ++
      Text.quoted text
  | unrecognized arguments =>
    "unrecognized arguments: ".toList ++ Text.joinWith [' '] arguments

/-! ## Sorting -/

inductive Item where
  | file (text : Text)
  | switches (list : List Switch)
  /-- A switch with a value that it cannot have, behind others run together with
  it. -/
  | valued (before : List Switch) (switch : Switch) (text : Text)
  | unknown (text : Text)
  /-- The mark behind which everything is a file. -/
  | mark
  deriving DecidableEq, Repr

/-- The mark behind which everything is a file. -/
def markText : Text := ['-', '-']

/-- Is the text a negative number? One line feed may stand behind it. -/
def isNegative (t : Text) : Bool :=
  match t with
  | '-' :: r =>
    -- one line feed at the end is overlooked
    let r := if r.getLast? = some '\n' then r.dropLast else r
    let rest := r.dropWhile isDecimalDigit
    if rest.isEmpty then !r.isEmpty
    else rest.head? = some '.' && !rest.tail.isEmpty && rest.tail.all isDecimalDigit
  | _ => false

/-- The item of a text that begins with a dash and names no switch. -/
def stray (t : Text) : Item := if isNegative t || t.contains ' ' then .file t else .unknown t

/-- The letters behind the letter of a switch, which was run together with the
switches `before`. -/
def runTogether : (before : List Switch) → Switch → Text → Item
  | before, s, [] => .switches (before ++ [s])
  | before, s, c :: t =>
    match Switch.ofLetter? c with
    | some next => runTogether (before ++ [s]) next t
    | none => .valued before s (c :: t)

/-- The item of a short name and what stands behind it. -/
def shortItem (t : Text) (c : Char) (behind : Text) : Item :=
  match Switch.ofLetter? c, behind with
  | some s, '=' :: [] => .valued [] s []
  | some s, '=' :: value => runTogether [] s value
  | some s, letters => runTogether [] s letters
  | none, _ => stray t

/-- The item of a long name, which may be cut short and have a value. -/
def longItem (t : Text) : Except Misuse Item :=
  let name := t.takeWhile (· ≠ '=')
  let value := (t.drop name.length).tail
  let candidates :=
    match Switch.all.filter (·.long = name) with
    | [] => Switch.all.filter fun s => Text.startsWith name s.long
    | exact => exact
  match candidates with
  | [] => .ok (stray t)
  | [s] => .ok (if name.length < t.length then .valued [] s value else .switches [s])
  | _ => .error (.ambiguous t candidates)

/-- The item of an argument before the mark. -/
def item (t : Text) : Except Misuse Item :=
  match t with
  | '-' :: '-' :: _ => longItem t
  | '-' :: c :: behind => .ok (shortItem t c behind)
  | _ => .ok (.file t)

def items : List Text → Except Misuse (List Item)
  | [] => .ok []
  | t :: ts =>
    if t = markText then .ok (.mark :: ts.map .file)
    else
      match item t with
      | .error e => .error e
      | .ok i => (items ts).map (i :: ·)

/-! ## Effect -/

/-- What the command is to do. -/
inductive Order where
  | help
  /-- Repair a file, if one is given. -/
  | repair (file : Option Text)
  deriving DecidableEq, Repr

/-- The text of an item that is left over. -/
def Item.leftover : Item → Text
  | file t => t
  | unknown t => t
  | mark => markText
  | _ => []

/-- The order that items make, where `file` is the file so far, if one may still
come or has come, and `extra` are the items left over. A mark directly before or
behind the file goes with it. -/
def orderOf : (file : Option (Option Text)) → (extra : List Text) → List Item →
    Except Misuse Order
  | file, [], [] => .ok (.repair (file.getD none))
  | _, extra, [] => .error (.unrecognized extra)
  | file, extra, .switches list :: rest =>
    if list.contains .help then .ok .help else orderOf file extra rest
  | _, _, .valued _ s text :: _ => .error (.value s text)
  | file, extra, .unknown t :: rest => orderOf file (extra ++ [t]) rest
  | none, extra, .file t :: .mark :: rest => orderOf (some (some t)) extra rest
  | none, extra, .file t :: rest => orderOf (some (some t)) extra rest
  | none, extra, .mark :: .file t :: rest => orderOf (some (some t)) extra rest
  | none, extra, .mark :: rest => orderOf (some none) extra rest
  | some f, extra, i :: rest => orderOf (some f) (extra ++ [i.leftover]) rest

def order (arguments : List Text) : Except Misuse Order :=
  match items arguments with
  | .error e => .error e
  | .ok is => orderOf none [] is

end Command

end SketchRepair
