import SketchRepair.Json.Value

/-!
# SketchRepair — the audit trail

Every pass reports what it does as records: that it started, what it fixed, what
it left, each exchange with the oracle, and how it ended. A run ends with a
summary. Records are only written; no pass reads them.
-/

namespace SketchRepair

/-- What a record tells about the provider that answered. -/
structure ProviderNote where
  provider : Text
  model : Text
  /-- How long the answer took, in milliseconds. -/
  latency : Number
  tokens : Int

/-- One entry of the audit trail. -/
inductive Record where
  | passStarted (pass : Text)
  | fixApplied (pass location description : Text) (metadata : List (Text × Json))
  /-- A pass left something as it was. -/
  | patchSkipped (pass reason : Text)
  /-- A pass ended, after the given time in milliseconds. -/
  | passCompleted (pass : Text) (fixes : Int) (duration : Number) (error : Option Text)
  | oracleRequest (pass : Text) (length : Nat) (preview : Text) (maxTokens : Int)
  /-- The oracle answered, or failed to. An error that is given without a text
  stands for one whose cause is unknown. -/
  | oracleResponse (pass : Text) (note : Option ProviderNote) (success : Bool) (length : Nat)
      (error : Option (Option Text))
  | runSummary (total : Int) (perPass : List (Text × Int))

namespace Record

def event : Record → Text
  | passStarted .. => "pass_started".toList
  | fixApplied .. => "fix_applied".toList
  | patchSkipped .. => "patch_skipped".toList
  | passCompleted .. => "pass_completed".toList
  | oracleRequest .. => "oracle_request".toList
  | oracleResponse .. => "oracle_response".toList
  | runSummary .. => "run_summary".toList

/-- The pass that a record is about. -/
def pass? : Record → Option Text
  | passStarted p => some p
  | fixApplied p .. => some p
  | patchSkipped p _ => some p
  | passCompleted p .. => some p
  | oracleRequest p .. => some p
  | oracleResponse p .. => some p
  | runSummary .. => none

/-- The length up to which texts are shown in full. -/
def previewLimit : Nat := 100

/-- The beginning of a text, with dots behind it when there is more. -/
def preview (t : Text) : Text :=
  if previewLimit < t.length then t.take previewLimit ++ "...".toList else t

/-- The record of the end of a pass; an error without a text is left out. -/
def completed (pass : Text) (fixes : Int) (duration : Number) (error : Option Text) : Record :=
  passCompleted pass fixes duration.roundTwoPlaces (error.filter (!·.isEmpty))

def asked (pass prompt : Text) (maxTokens : Int) : Record :=
  oracleRequest pass prompt.length (preview prompt) maxTokens

/-- The record of a plain answer, or of a failure; a failure without a text leaves
no error in the record. -/
def answered (pass : Text) (content error : Option Text) : Record :=
  oracleResponse pass none error.isNone (content.getD []).length
    ((error.filter (!·.isEmpty)).map some)

end Record

end SketchRepair
