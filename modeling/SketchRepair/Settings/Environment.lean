import SketchRepair.Page.Visit
import SketchRepair.Repair.Pass.Markup
import SketchRepair.Repair.Pass.Parenthesis
import SketchRepair.Repair.Pass.Shader
import SketchRepair.Settings.Reading
import SketchRepair.Text.LowerCase

/-!
# SketchRepair — settings

Every setting has a standard value and may be given by a variable of the
environment, whose name counts in any letter case. All complaints about the values
are reported together, in the order of the settings; but a list that is no JSON is
reported before everything else, and alone.
-/

namespace SketchRepair

structure Settings where
  appName : Text := "p5-repair".toList
  debug : Bool := false
  provider : Text := "openai".toList
  /-- Credential for an endpoint with chat completions. -/
  key : Text := []
  address : Text := "https://api.deepseek.com".toList
  model : Text := "deepseek-chat".toList
  /-- Sampling temperature of all questions. -/
  temperature : Float := 0.1
  /-- Credential for an endpoint with messages. -/
  messageKey : Text := []
  messageModel : Text := "claude-sonnet-4-5".toList
  /-- How long an answer may take, in seconds. -/
  answerTimeout : Int := 30
  /-- How long a page may load, in milliseconds. -/
  loadTimeout : Int := 30000
  /-- How long a page settles, in milliseconds. -/
  settle : Int := 2000
  /-- How long a page with shaders settles, in milliseconds. -/
  shaderSettle : Int := Pass.shaderSettle
  browserFlags : List Text := ["--no-sandbox".toList, "--disable-setuid-sandbox".toList]
  /-- The similarity that a line must exceed to be overwritten. -/
  similarityThreshold : Float := Pass.similarityThreshold
  /-- The greatest number of regions that one run wraps in place. -/
  wrapLimit : Int := Pass.wrapLimit

namespace Settings

/-- The settings when the environment gives none. -/
def standard : Settings := {}

/-- What keeps the settings from being read. -/
inductive Fault where
  /-- A list is no JSON. -/
  | unreadableList
  /-- Values are not of their kinds. -/
  | invalid (complaints : List Complaint)

abbrev Environment := List (Text × Text)

/-- The value of the last variable of a name. -/
def Environment.value? (env : Environment) (name : Text) : Option Text :=
  (env.reverse.find? fun (n, _) => Text.toLower n = Text.toLower name).map (·.2)

/-- The value of the first of the names that is given. -/
def Environment.valueOf? (env : Environment) (names : List Text) : Option Text :=
  names.findSome? env.value?

/-- The value of a variable as `read` reads it, and the complaint about it, if there
is one; the standard value when the variable is not given. -/
def Environment.read {α : Type} (env : Environment) (name : Text) (read : Text → Except Defect α)
    (standard : α) : α × List Complaint :=
  match env.value? name with
  | none => (standard, [])
  | some t =>
    match read t with
    | .ok v => (v, [])
    | .error d => (standard, [⟨d, [.name name]⟩])

def Environment.text (env : Environment) (name : Text) (standard : Text) : Text :=
  (env.value? name).getD standard

/-- Name of the variable that holds a list. -/
def flagsName : Text := "BROWSER_ARGS".toList

/-- The list that a variable gives; a JSON `null` gives none. -/
def Environment.flags (env : Environment) (standard : List Text) :
    Except Fault (List Text × List Complaint) :=
  match env.value? flagsName with
  | none => .ok (standard, [])
  | some t =>
    match Json.parse t with
    | .error _ => .error .unreadableList
    | .ok .null => .ok (standard, [])
    | .ok v =>
      match textList v with
      | .ok flags => .ok (flags, [])
      | .error ds =>
        .ok (standard, ds.map fun (d, i) =>
          ⟨d, .name flagsName :: (i.map Step.position).toList⟩)

def ofEnvironment (env : Environment) : Except Fault Settings := do
  let s := standard
  let (browserFlags, flagComplaints) ← env.flags s.browserFlags
  let (debug, c₁) := env.read "DEBUG".toList readBool s.debug
  let (temperature, c₂) := env.read "SUGGESTION_TEMPERATURE".toList readReal s.temperature
  let (answerTimeout, c₃) := env.read "AI_REQUEST_TIMEOUT".toList readWhole s.answerTimeout
  let (loadTimeout, c₄) := env.read "PAGE_LOAD_TIMEOUT_MS".toList readWhole s.loadTimeout
  let (settle, c₅) := env.read "PAGE_SETTLE_MS".toList readWhole s.settle
  let (shaderSettle, c₆) := env.read "SHADER_SETTLE_MS".toList readWhole s.shaderSettle
  let (similarityThreshold, c₇) :=
    env.read "FUZZY_MATCH_THRESHOLD".toList readReal s.similarityThreshold
  let (wrapLimit, c₈) := env.read "STYLE_WRAP_LIMIT".toList readWhole s.wrapLimit
  -- in the order of the fields
  let complaints := c₁ ++ c₂ ++ c₃ ++ c₄ ++ c₅ ++ c₆ ++ flagComplaints ++ c₇ ++ c₈
  if complaints.isEmpty then
    .ok {
      appName := env.text "APP_NAME".toList s.appName
      debug
      provider := env.text "SUGGESTION_PROVIDER".toList s.provider
      key := (env.valueOf? ["SUGGESTION_API_KEY".toList, "DEEPSEEK_API_KEY".toList]).getD s.key
      address := env.text "SUGGESTION_BASE_URL".toList s.address
      model := env.text "SUGGESTION_MODEL".toList s.model
      temperature
      messageKey := env.text "ANTHROPIC_API_KEY".toList s.messageKey
      messageModel := env.text "ANTHROPIC_MODEL".toList s.messageModel
      answerTimeout, loadTimeout, settle, shaderSettle, browserFlags, similarityThreshold,
      wrapLimit }
  else .error (.invalid complaints)

/-- The settings as the fields of a JSON object. -/
def fields (s : Settings) : List (Text × Json) :=
  let text (name : String) (t : Text) : Text × Json := (name.toList, .str t)
  let whole (name : String) (n : Int) : Text × Json := (name.toList, .num (.whole n))
  let real (name : String) (x : Float) : Text × Json := (name.toList, .num (.real x))
  [text "APP_NAME" s.appName, ("DEBUG".toList, .bool s.debug),
    text "SUGGESTION_PROVIDER" s.provider, text "SUGGESTION_API_KEY" s.key,
    text "SUGGESTION_BASE_URL" s.address, text "SUGGESTION_MODEL" s.model,
    real "SUGGESTION_TEMPERATURE" s.temperature, text "ANTHROPIC_API_KEY" s.messageKey,
    text "ANTHROPIC_MODEL" s.messageModel, whole "AI_REQUEST_TIMEOUT" s.answerTimeout,
    whole "PAGE_LOAD_TIMEOUT_MS" s.loadTimeout, whole "PAGE_SETTLE_MS" s.settle,
    whole "SHADER_SETTLE_MS" s.shaderSettle,
    ("BROWSER_ARGS".toList, .arr (s.browserFlags.map .str)),
    real "FUZZY_MATCH_THRESHOLD" s.similarityThreshold, whole "STYLE_WRAP_LIMIT" s.wrapLimit]

/-- The browser of the settings, with a timeout, a time to settle and flags of its
own where they are given; a timeout of zero counts as none. -/
def browser (s : Settings) (timeout settle : Option Int) (flags : Option (List Text)) :
    Page.Browser where
  loadTimeout := (timeout.filter (· ≠ 0)).getD s.loadTimeout
  settle := settle.getD s.settle
  flags := flags.getD s.browserFlags

end Settings

end SketchRepair
