import SketchRepair.Document.Element
import SketchRepair.Page.Fault
import SketchRepair.Prompt.Resource
import SketchRepair.Repair.Pass

/-!
# SketchRepair — script tags that do not load

The page is run once. Resources that were not loaded are matched with the external
scripts of the page, and the oracle is asked for a replacement of every tag that
was matched. Tags it cannot help with stay as they are.
-/

namespace SketchRepair

namespace Page

/-- A resource that was not loaded. -/
structure FailedResource where
  url : Text
  error : Text
  deriving DecidableEq, Repr

/-- Texts that tell the address of a script. -/
def scriptHints : List Text := [".js".toList, "/js/".toList, "script".toList]

/-- The failed resource that an event is about: a script that was not loaded, or an
error on the console that names an address. -/
def Event.failedResource? (e : Event) : Option FailedResource :=
  match e.channel with
  | .requestFailed =>
    match e.url with
    | some url => if Text.hasAny scriptHints url then some ⟨url, e.message⟩ else none
    | none => none
  | .consoleError => (address? e.message).map fun url => ⟨url, e.message⟩
  | _ => none

/-- The failed resources of a page run. -/
def failedResources (events : List Event) : List FailedResource :=
  events.filterMap (·.failedResource?)

/-- The last segment of an address. -/
def lastSegment (url : Text) : Text :=
  ((Text.trimEnd url).reverse.takeWhile (· ≠ '/')).reverse

/-- May a script with this source be the failed resource? One address contains the other,
or both end in the same segment. -/
def FailedResource.matches (r : FailedResource) (src : Text) : Bool :=
  Text.has src r.url || Text.has r.url src ||
    (r.url.contains '/' && src.contains '/' && lastSegment r.url == lastSegment src)

/-- The first of the scripts that may be the failed resource, where `source` reads the
source of a script. -/
def FailedResource.scriptBy? (source : Document.Element → Option Text) (r : FailedResource)
    (scripts : List Document.Element) : Option Document.Element :=
  scripts.find? fun e => r.matches ((source e).getD [])

/-- The first of the scripts that may be the failed resource. -/
def FailedResource.script? (r : FailedResource) (scripts : List Document.Element) :
    Option Document.Element := r.scriptBy? Document.Element.source? scripts

end Page

namespace Pass

open Document (Element)

/-- Name of the pass that replaces script tags that do not load. -/
def scriptTagName : Text := "cdn".toList

/-- The scripts that failed resources match, each text once, with the error of the
first resource that matched it; `seen` holds those matched before. -/
def failedScripts (source : Element → Option Text) (scripts : List Element) :
    (seen : List Text) → List Page.FailedResource → List (Element × Text)
  | _, [] => []
  | seen, r :: rs =>
    match r.scriptBy? source scripts with
    | none => failedScripts source scripts seen rs
    | some e =>
      if seen.contains e.text then failedScripts source scripts seen rs
      else (e, r.error) :: failedScripts source scripts (e.text :: seen) rs

/-- The page with a script tag replaced as the oracle says, and whether it was. -/
def replaceScriptTag (source : Element → Option Text) (team : Collaborators) (page : Text)
    (e : Element) (error : Text) : Run (Text × Bool) := do
  let context : Prompt.ScriptTagContext := ⟨e.text, error⟩
  let src := (source e).getD []
  match ← Run.ask scriptTagName team.oracle context.request with
  | none => return (page, false)
  | some answer =>
    match context.readAnswer answer with
    | some replacement =>
      if Text.has e.text page then
        Run.log
          (.fixApplied scriptTagName src ("replaced script tag with ".toList ++ replacement) [])
        return (Text.replaceFirst e.text replacement page, true)
      else
        Run.log (.patchSkipped scriptTagName ("no usable replacement for ".toList ++ src))
        return (page, false)
    | none =>
      Run.log (.patchSkipped scriptTagName ("no usable replacement for ".toList ++ src))
      return (page, false)

/-- The page with script tags replaced one after the other, and the number of
replacements. -/
def replaceScriptTags (source : Element → Option Text) (team : Collaborators) :
    Text → List (Element × Text) → Run (Text × Nat)
  | page, [] => return (page, 0)
  | page, (e, error) :: rest => do
    let (page, replaced) ← replaceScriptTag source team page e error
    let (page, n) ← replaceScriptTags source team page rest
    return (page, n + replaced.toNat)

/-- Replaces script tags that do not load, where `source` reads from a script what it
loads. -/
def scriptTagBy (source : Element → Option Text) : Pass where
  name := scriptTagName
  title := "CdnPass".toList
  repair := fun team page => do
    match team.executor with
    | none =>
      Run.log (.patchSkipped scriptTagName "no page executor configured".toList)
      return (page, 0)
    | some executor =>
      let events ← Run.execute executor page none
      let failed := Page.failedResources events
      let scripts := Document.sourcedScripts source page
      replaceScriptTags source team page (failedScripts source scripts [] failed)

/-- Replaces script tags that do not load. -/
def scriptTag : Pass := scriptTagBy Element.source?

end Pass

end SketchRepair
