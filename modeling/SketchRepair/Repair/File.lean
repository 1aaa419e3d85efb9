import SketchRepair.Repair.Pipeline
import SketchRepair.Text.LineEnd

/-!
# SketchRepair — repairing a file

A file is read as UTF-8 and its line ends are unified. What was read goes into a
backup before anything else happens, and the file itself is written only if
something was fixed. An answer may spell half of a surrogate pair; a page with such a
half cannot be written.

Main statement: `text?_bytes` — a text written to a file is read back with its line
ends unified.
-/

namespace SketchRepair

namespace File

def bytes (t : Text) : ByteArray := (String.ofList t).toUTF8

/-- The text of bytes, with its line ends unified; none when the bytes are no
UTF-8. -/
def text? (content : ByteArray) : Option Text :=
  (String.fromUTF8? content).map fun s => Text.unifyLineEnds s.toList

theorem fromUTF8?_toUTF8 (s : String) : String.fromUTF8? s.toUTF8 = some s := by
  have h : s.toUTF8.IsValidUTF8 := s.isValidUTF8
  rw [String.fromUTF8?, dif_pos h]
  rfl

theorem text?_bytes (t : Text) : text? (bytes t) = some (Text.unifyLineEnds t) := by
  rw [text?, bytes, fromUTF8?_toUTF8]
  simp

end File

structure FileRepair where
  report : Report
  backup : ByteArray
  /-- What the file holds when it is over, unless that is in doubt. -/
  content : ByteArray
  /-- May the page hold half of a surrogate pair? Such a page is not written: the file is
  left empty, and the repair fails. -/
  inDoubt : Bool

/-- What is added to the name of a file to name its backup. -/
def backupEnding : Text := ".backup".toList

/-- May an answer to one of these questions, from the call number `n` on, have brought in
half of a surrogate pair? -/
def Collaborators.mayGiveHalf (team : Collaborators) (n : Nat) (questions : List Request) : Bool :=
  match team.oracle with
  | none => false
  | some oracle =>
    (questions.zipIdx.drop n).any fun (request, k) =>
      match oracle k request with
      | .answer text => Answer.mayHoldHalf text
      | _ => false

/-- Repairs a file with the given content, of which `page` is the text. When a loop was
entered that nothing ends, it never comes to writing the file. -/
def FileRepair.ofRun (passes : List Pass) (team : Collaborators) (content : ByteArray)
    (page : Text) : Run FileRepair := do
  let before ← Run.progress
  let report ← Pipeline.run passes team page
  let after ← Run.progress
  let writes := 0 < report.totalFixes && !after.endless
  return {
    report
    backup := File.bytes page
    content := if writes then File.bytes report.page else content
    inDoubt := writes && team.mayGiveHalf before.questions.length after.questions }

/-- Repairs a file with the given content; none when it is no text. -/
def repairFile? (passes : List Pass) (team : Collaborators) (content : ByteArray) :
    Option (Run FileRepair) :=
  (File.text? content).map (FileRepair.ofRun passes team content)

end SketchRepair
