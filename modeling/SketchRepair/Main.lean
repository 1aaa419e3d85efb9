import SketchRepair.Command.Run

/-!
# SketchRepair — the program

Reads the file that the arguments name, and writes what the command decides. The
program itself reaches neither a model nor a browser.
-/

namespace SketchRepair

namespace Command

/-- The content of a file; none when it cannot be read. -/
def contentOf (path : Text) : IO (Option ByteArray) := do
  try return some (← IO.FS.readBinFile (String.ofList path))
  catch _ => return none

def Outcome.perform (o : Outcome) : IO UInt32 := do
  for (path, bytes) in o.writes do
    IO.FS.writeBinFile (String.ofList path) bytes
  IO.print (String.ofList o.output)
  IO.eprint (String.ofList o.complaint)
  return o.exitCode.toUInt32

end Command

end SketchRepair

open SketchRepair in
def main (arguments : List String) : IO UInt32 := do
  match Command.begin? (arguments.map String.toList) with
  | .error outcome => outcome.perform
  | .ok path =>
    let content ← Command.contentOf path
    (Command.finish (Collaborators.completed ⟨none, none⟩) path content).perform
