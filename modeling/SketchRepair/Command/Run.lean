import SketchRepair.Command.Arguments
import SketchRepair.Repair.File
import SketchRepair.Suggestion.Oracle

/-!
# SketchRepair — the command

The command repairs one file in place and prints one line on the run. It succeeds
if something was fixed. Arguments that make no order end it before anything is
read.
-/

namespace SketchRepair

namespace Command

/-! ## Texts -/

def name : Text := "p5-repair".toList

def usage : Text := "usage: ".toList ++ name ++ " [-h] [-v] [file]\n".toList

def helpText : Text :=
  usage ++
    "
Repair common defects in a p5.js / THREE.js HTML page in place.

positional arguments:
  file           HTML file to repair (a .backup copy is written first)

options:
  -h, --help     show this help message and exit
  -v, --verbose  Debug logging
".toList

/-- What is said when there is no file to repair. -/
def noFileText : Text := "Usage: ".toList ++ name ++ " <html-file>\n".toList

def misuseText (m : Misuse) : Text :=
  usage ++ name ++ ": error: ".toList ++ m.message ++ ['\n']

/-! ## Paths -/

/-- A path without empty steps and steps to where it already is. -/
def plainPath (path : Text) : Text :=
  (if path.head? = some '/' then ['/'] else []) ++
    Text.joinWith ['/'] ((Text.pieces (· = '/') path).filter (· ≠ ['.']))

/-! ## Outcomes -/

/-- What a run of the command leaves behind. -/
structure Outcome where
  exitCode : Nat
  output : Text := []
  complaint : Text := []
  /-- The files written, each with its path and content, in order. -/
  writes : List (Text × ByteArray) := []

/-- The outcome when there is no file to repair. -/
def noFile : Outcome := { exitCode := 1, complaint := noFileText }

/-- What comes of the arguments: an outcome at once, or the path of a file. -/
def begin? (arguments : List Text) : Except Outcome Text :=
  match order arguments with
  | .error m => .error { exitCode := 2, complaint := misuseText m }
  | .ok .help => .error { exitCode := 0, output := helpText }
  | .ok (.repair none) => .error noFile
  | .ok (.repair (some [])) => .error noFile
  | .ok (.repair (some path)) => .ok (plainPath path)

/-- The files that a repair writes: the backup, and the file itself if something was
fixed. -/
def writesOf (path : Text) (r : FileRepair) : List (Text × ByteArray) :=
  (path ++ backupEnding, r.backup) ::
    (if 0 < r.report.totalFixes then [(path, r.content)] else [])

/-- The outcome of repairing the file at a path, whose content is given if there is
such a file. -/
def finish (team : Collaborators) (path : Text) (content : Option ByteArray) : Outcome :=
  match content with
  | none => noFile
  | some bytes =>
    match repairFile? Pipeline.standard team bytes with
    | none => { exitCode := 1 }
    | some repair =>
      match (repair .initial).1 with
      | .error _ => { exitCode := 1 }
      | .ok r =>
        { exitCode := if 0 < r.report.totalFixes then 0 else 1
          output := r.report.describe ++ ['\n']
          writes := writesOf path r }

/-- The outcome of the command, where `content` gives the contents of the files that
exist. -/
def run (team : Collaborators) (content : Text → Option ByteArray) (arguments : List Text) :
    Outcome :=
  match begin? arguments with
  | .error o => o
  | .ok path => finish team path (content path)

end Command

end SketchRepair
