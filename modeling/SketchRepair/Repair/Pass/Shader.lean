import SketchRepair.Prompt.Resource
import SketchRepair.Repair.Pass
import SketchRepair.Text.Fold
import SketchRepair.Text.Search

/-!
# SketchRepair — shader materials that do not compile

Runs only on pages that make a shader material. When the page, given more time to
settle, reports a shader error, every such material is sent to the oracle. There
is no mechanical repair, and a repair ends the run.
-/

namespace SketchRepair

namespace Page

/-- Tokens of shader errors on the console. -/
def consoleShaderTokens : List Text :=
  ["SHADER_INFO".toList, "THREE.WebGLProgram: Shader Error".toList]

/-- Tokens of shader errors among uncaught errors. -/
def pageShaderTokens : List Text := ["SHADER_INFO".toList, "Shader Error".toList]

/-- The tokens of shader errors on a channel. -/
def Channel.shaderTokens : Channel → List Text
  | .pageError => pageShaderTokens
  | .consoleError => consoleShaderTokens
  | .consoleMessage => consoleShaderTokens
  | .requestFailed => []

/-- The shader errors of a page run. -/
def shaderErrors (events : List Event) : List Text :=
  (events.filter fun e => Text.hasAny e.channel.shaderTokens e.message).map (·.message)

end Page

namespace Document

/-- Does the page make a shader material? -/
def makesShaderMaterial (page : Text) : Bool :=
  Text.hasFold "new three.shadermaterial(".toList page

/-- The length of a call that makes a shader material and begins here: up to the
first closing brace and parenthesis, and a `;` behind them. -/
def shaderBlockHere (t : Text) : Option Nat :=
  let opener := "new THREE.ShaderMaterial(\x7b".toList
  let closer := "\x7d)".toList
  match Text.after? opener t with
  | none => none
  | some r =>
    (Text.cut? closer r).map fun (body, rest) =>
      opener.length + body.length + closer.length + (if rest.head? = some ';' then 1 else 0)

/-- Where the calls that make shader materials stand in a page. -/
def shaderBlocks (page : Text) : List (Nat × Nat) := Text.spans (fun _ t => shaderBlockHere t) page

end Document

namespace Pass

/-- Name of the pass that repairs shader materials. -/
def shaderName : Text := "shader".toList

/-- How long a page with shaders settles, in milliseconds. -/
def shaderSettle : Int := 3000

/-- The page with the materials at the given places of the `source` page replaced
as the oracle says, and the number of replacements. -/
def replaceShaders (team : Collaborators) (source error : Text) :
    Text → List (Nat × Nat) → Run (Text × Nat)
  | page, [] => return (page, 0)
  | page, span :: rest => do
    let context : Prompt.ShaderContext := ⟨Text.between span source, error⟩
    match ← Run.ask shaderName team.oracle context.request with
    | none => replaceShaders team source error page rest
    | some answer =>
      match context.readAnswer answer with
      | none => replaceShaders team source error page rest
      | some fixed =>
        if Text.has context.block page then
          Run.log (.fixApplied shaderName ("offset ".toList ++ Decimal.ofNat span.1)
            "rewrote ShaderMaterial block".toList [])
          let (page, n) ←
            replaceShaders team source error (Text.replaceFirst context.block fixed page) rest
          return (page, n + 1)
        else replaceShaders team source error page rest

def shader : Pass where
  name := shaderName
  title := "ShaderPass".toList
  preempts := true
  applies := Document.makesShaderMaterial
  repair := fun team page => do
    match team.executor with
    | none =>
      Run.log (.patchSkipped shaderName "no page executor configured".toList)
      return (page, 0)
    | some executor =>
      let events ← Run.execute executor page (some shaderSettle)
      match Page.shaderErrors events with
      | [] => return (page, 0)
      | error :: _ => replaceShaders team page error page (Document.shaderBlocks page)

end Pass

end SketchRepair
