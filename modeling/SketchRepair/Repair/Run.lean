import SketchRepair.Page.Event
import SketchRepair.Prompt.Request
import SketchRepair.Repair.Abort
import SketchRepair.Repair.Record

/-!
# SketchRepair — runs and their collaborators

A pass works with an oracle that it may ask and an executor that runs the page.
Both are functions of the number of calls before, so they may answer every call
differently. A run keeps count of the calls, the records written so far, and
what the collaborators were given. When a run is aborted, all of that stays. A run
may also come to a loop that never ends; its progress tells.
-/

namespace SketchRepair

/-- What the oracle replies to a question. -/
inductive Reply where
  | answer (text : Text)
  /-- No answer could be had, for this reason. -/
  | unavailable (reason : Text)
  | failure (text : Text)
  deriving DecidableEq, Repr

/-- A suggestion oracle: its reply to the call number `n`, counted from zero. -/
abbrev Oracle := Nat → Request → Reply

/-- A page executor: the events of the call number `n`. -/
abbrev Executor := Nat → Text → List Page.Event

/-- Those a pass works with; either may be missing. -/
structure Collaborators where
  oracle : Option Oracle
  executor : Option Executor

/-- The collaborators, the missing ones taken from others. -/
def Collaborators.filledFrom (own others : Collaborators) : Collaborators :=
  ⟨own.oracle.orElse fun _ => others.oracle, own.executor.orElse fun _ => others.executor⟩

/-- What has happened in a run so far. -/
structure Progress where
  questions : List Request
  /-- The settling times the executor was given, in milliseconds. -/
  settleTimes : List (Option Int)
  records : List Record
  /-- Has a loop been entered that nothing ends? The program stays in it, so nothing that a
  run yields or puts on record behind it ever happens. -/
  endless : Bool

namespace Progress

def initial : Progress := ⟨[], [], [], false⟩

end Progress

/-- A step of a run: it moves the progress on, and yields a value or is aborted. -/
def Run (α : Type) : Type := Progress → Except Abort α × Progress

namespace Run

/-- A step that only yields a value. -/
def done {α : Type} (a : α) : Run α := fun p => (.ok a, p)

def andThen {α β : Type} (x : Run α) (f : α → Run β) : Run β := fun p =>
  match x p with
  | (.ok a, q) => f a q
  | (.error e, q) => (.error e, q)

instance : Monad Run where
  pure := done
  bind := andThen

def abort {α : Type} (e : Abort) : Run α := fun p => (.error e, p)

/-- The step with a value that is known. -/
def ofExcept {α : Type} : Except Abort α → Run α
  | .ok a => done a
  | .error e => abort e

/-- A loop, which has no outcome if nothing ends it. The progress is marked then; the value
that stands in for the outcome is of no account. -/
def ofLoop {α : Type} (standIn : α) (loop : Progress → Option (Except Abort α × Progress)) :
    Run α :=
  fun p => (loop p).getD (.ok standIn, { p with endless := true })

/-- What has happened so far. -/
def progress : Run Progress := fun p => (.ok p, p)

def log (r : Record) : Run Unit := fun p => (.ok (), { p with records := p.records ++ [r] })

/-- Runs the page, given how long it may settle. -/
def execute (executor : Executor) (page : Text) (settle : Option Int) : Run (List Page.Event) :=
  fun p =>
    (.ok (executor p.settleTimes.length page), { p with settleTimes := p.settleTimes ++ [settle] })

/-- Asks the oracle in the name of a pass. There is no answer when there is no
oracle, or when it is unavailable; both are put on record. -/
def ask (pass : Text) (oracle : Option Oracle) (request : Request) : Run (Option Text) :=
  match oracle with
  | none => do
    log (.patchSkipped pass "no suggestion oracle configured".toList)
    return none
  | some oracle => do
    -- the question is on record even when the oracle fails
    log (.asked pass request.user request.maxTokens)
    let reply : Reply ← fun p =>
      (.ok (oracle p.questions.length request), { p with questions := p.questions ++ [request] })
    match reply with
    | .answer text => do
      log (.answered pass (some text) none)
      return some text
    | .unavailable reason => do
      log (.answered pass none (some reason))
      return none
    | .failure text => abort (.failed text)

end Run

end SketchRepair
