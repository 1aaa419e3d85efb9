import SketchRepair.Repair.Run
import SketchRepair.Settings.Environment

/-!
# SketchRepair — providers of suggestions

A provider is a model behind one of two protocols. It never fails: what goes wrong
on the way to the model is told by its answer. Without a credential it does not
even call.
-/

namespace SketchRepair

namespace Suggestion

inductive Kind where
  | openai
  | anthropic
  deriving DecidableEq, Repr

namespace Kind

def name : Kind → Text
  | openai => "openai".toList
  | anthropic => "anthropic".toList

def ofName? (name : Text) : Option Kind := [openai, anthropic].find? (·.name = name)

end Kind

/-! ## Answers -/

structure TokenUsage where
  prompt : Int
  completion : Int
  total : Int
  deriving DecidableEq, Repr

/-- The usage with a given total; a total of zero stands for the sum. -/
def TokenUsage.of (prompt completion total : Int) : TokenUsage :=
  ⟨prompt, completion, if total = 0 then prompt + completion else total⟩

/-- The answer of a provider. -/
structure Answer where
  content : Text
  kind : Kind
  model : Text
  usage : TokenUsage := .of 0 0 0
  /-- How long it took, in milliseconds. -/
  latency : Number := .real 0
  success : Bool := true
  error : Option Text := none

namespace Answer

/-- What the audit trail tells about the provider. -/
def note (a : Answer) : ProviderNote :=
  ⟨a.kind.name, a.model, a.latency.roundTwoPlaces, a.usage.total⟩

def record (pass : Text) (a : Answer) : Record :=
  .oracleResponse pass (some a.note) a.success a.content.length
    (if a.success then none else some a.error)

/-- The fields of an answer as they are logged, the text cut short. -/
def fields (a : Answer) : List (Text × Json) :=
  let whole (n : Int) : Json := .num (.whole n)
  [("content".toList, .str (Record.preview a.content)), ("provider".toList, .str a.kind.name),
    ("model".toList, .str a.model),
    ("tokens".toList, .obj [("prompt".toList, whole a.usage.prompt),
      ("completion".toList, whole a.usage.completion), ("total".toList, whole a.usage.total)]),
    ("latency_ms".toList, .num a.latency), ("success".toList, .bool a.success),
    ("error".toList, (a.error.map Json.str).getD .null)]

end Answer

/-! ## Calls -/

/-- A question as a provider is asked it. -/
structure Question where
  prompt : Text
  /-- The standing instruction, if there is one. -/
  system : Option Text := none
  temperature : Number := .real 0.1
  /-- Bound on the answer, in tokens. -/
  maxTokens : Int := Prompt.standardTokens

/-- A model behind a protocol. -/
structure Provider where
  kind : Kind
  model : Text
  key : Text
  deriving DecidableEq, Repr

/-- What comes back from a model. -/
inductive Response where
  | failure (text : Text)
  /-- The parts of the answer, some of them without text, and the tokens of question
  and answer. -/
  | parts (contents : List (Option Text)) (usage : Option (Int × Int))
  deriving DecidableEq, Repr

namespace Provider

def isConfigured (p : Provider) : Bool := !p.key.isEmpty

def noKey : Kind → Text
  | .openai => "Suggestion API key not configured".toList
  | .anthropic => "Anthropic API key not configured".toList

def message (role content : Text) : Json :=
  .obj [("role".toList, .str role), ("content".toList, .str content)]

/-- The call that asks a question: with chat completions the instruction is the
first message, otherwise a field of its own; an empty one is left out. -/
def call (p : Provider) (q : Question) : List (Text × Json) :=
  let system := q.system.filter (!·.isEmpty)
  let user := message "user".toList q.prompt
  let common : List (Text × Json) :=
    [("model".toList, .str p.model), ("temperature".toList, .num q.temperature),
      ("max_tokens".toList, .num (.whole q.maxTokens))]
  match p.kind with
  | .openai =>
    let instruction := (system.map (message "system".toList)).toList
    common ++ [("messages".toList, .arr (instruction ++ [user]))]
  | .anthropic =>
    common ++ [("messages".toList, .arr [user])] ++
      (system.map fun s => ("system".toList, Json.str s)).toList

/-- The answer that tells of an error. -/
def failed (p : Provider) (error : Text) : Answer :=
  { content := [], kind := p.kind, model := p.model, success := false, error := some error }

/-- The text that the parts of an answer make: of chat completions the first choice,
otherwise all parts. None when there is no choice. -/
def contentOf? (kind : Kind) (contents : List (Option Text)) : Option Text :=
  match kind with
  | .openai => contents.head?.map (·.getD [])
  | .anthropic => some (contents.flatMap (·.getD []))

def read (p : Provider) : Response → Answer
  | .failure text => p.failed text
  | .parts contents usage =>
    match contentOf? p.kind contents with
    | none => p.failed "Response contained no choices".toList
    | some content =>
      let (prompt, completion) := usage.getD (0, 0)
      { content, kind := p.kind, model := p.model, usage := .of prompt completion 0 }

/-- The answer to a question, where `response` comes back from the model; and the
calls that were made. -/
def ask (p : Provider) (q : Question) (response : Response) :
    Answer × List (List (Text × Json)) :=
  if p.isConfigured then (p.read response, [p.call q]) else (p.failed (noKey p.kind), [])

/-- A provider with the given model and credential, either of which is taken from the
settings when it is missing or empty. -/
def ofSettings (s : Settings) (kind : Kind) (model key : Option Text) : Provider :=
  let or (t : Option Text) (standard : Text) : Text := (t.filter (!·.isEmpty)).getD standard
  match kind with
  | .openai => ⟨kind, or model s.model, or key s.key⟩
  | .anthropic => ⟨kind, or model s.messageModel, or key s.messageKey⟩

/-- The provider of a name, in any letter case, or of the name in the settings when
there is none; an error with the name when there is no such provider. -/
def named (s : Settings) (name : Option Text) : Except Text Provider :=
  let name := Text.toLower ((name.filter (!·.isEmpty)).getD s.provider)
  match Kind.ofName? name with
  | some kind => .ok (ofSettings s kind none none)
  | none => .error ("Unknown suggestion provider: ".toList ++ name)

end Provider

end Suggestion

end SketchRepair
