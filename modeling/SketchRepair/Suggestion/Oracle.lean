import SketchRepair.Suggestion.Provider

/-!
# SketchRepair — the oracle of a provider

A provider serves as oracle. Everything that goes wrong makes the oracle
unavailable, with the reason, so that a pass can do without; an answer of nothing
but blanks counts as none.
-/

namespace SketchRepair

namespace Suggestion

/-- The reply that a provider's answer makes. -/
def replyTo (a : Answer) : Reply :=
  if a.success then
    let t := Text.trim a.content
    if t.isEmpty then .unavailable "Suggestion response was empty".toList else .answer t
  else .unavailable ((a.error.filter (!·.isEmpty)).getD "Suggestion request failed".toList)

/-- The reply of a provider with the given answer; without a credential it is not
even asked. -/
def reply (configured : Bool) (a : Answer) : Reply :=
  if configured then replyTo a
  else .unavailable "Suggestion provider has no credential configured".toList

/-- The reply when there is no provider, for the given reason. -/
def replyWithout (why : Text) : Reply :=
  .unavailable ("Suggestion provider unavailable: ".toList ++ why)

/-- The question that a request is to a provider. -/
def questionOf (temperature : Number) (r : Request) : Question :=
  { prompt := r.user, system := some r.system, temperature, maxTokens := r.maxTokens }

/-- The oracle of a provider, or of the reason why there is none; `service n` gives
what comes back from the model for the call number `n`. -/
def oracle (provider : Except Text Provider) (temperature : Number)
    (service : Nat → Question → Response) : Oracle := fun n r =>
  match provider with
  | .error why => replyWithout why
  | .ok p =>
    let q := questionOf temperature r
    reply p.isConfigured (p.ask q (service n q)).1

/-- The oracle that given settings name, when no model can be reached. -/
def unreachable (s : Settings) : Oracle :=
  oracle (Provider.named s none) (.real s.temperature) fun _ _ => .failure []

end Suggestion

/-- The collaborators with the missing ones supplied: the oracle of the standard
settings, which has no credential, and an executor that observes nothing. -/
def Collaborators.completed (team : Collaborators) : Collaborators :=
  team.filledFrom ⟨some (Suggestion.unreachable Settings.standard), some fun _ _ => []⟩

end SketchRepair
