import Provision.Script.EventLoop
import Provision.Script.Method.Error

/-!
Running programs from scripts: with an environment, with the defaults of a runtime, as a service
program, or against a plan.
-/

namespace Provision.Script

/-! ### Environments of runs -/

/-- A value that may be left out. -/
def given? : Value → Option Value
  | .none => none
  | v => some v

/-- The environment of a runtime for one run. -/
def environmentFor (p : Performer) (defaults overrides : Value) : Act Value :=
  (shelf p).assemble (.environmentFor defaults (given? overrides))

/-! ### Runs -/

/-- Runs a program in one go. -/
def runSync (p : Performer) (program environment cancellation : Value) : Act Value :=
  runBlocking p environment cancellation (Run.start .blocking program)

/-- Runs a service program in one go. -/
def serveSync (p : Performer) (service implementations cancellation : Value) : Act Value := do
  let (environment, blueprint) ← prepareService p service implementations
  runBlocking p environment cancellation (Run.launch .blocking blueprint)

/-- Starts a service program without running it: the program and its environment. -/
def startService (p : Performer) (service implementations : Value) : Act Value := do
  let (environment, blueprint) ← prepareService p service implementations
  let program ← Act.ofResult (← converseIn p environment blueprint.build)
  newTuple [program, environment]

/-- Runs a program against a plan and a fallback; the whole plan has to be used up. -/
def runSequence (p : Performer) (plan program fallback : Value) : Act Value := do
  let sequence ← newInstance "SequenceEnvironment" [("sequence", plan)]
  let environment ← alloc (.rehearsal sequence (← (shelf p).orEmpty (given? fallback)) [])
  let guard ← newGuard p (← consumeFunction) [sequence] []
  discard (enterGuard p guard)
  let result ← Act.attempt do
    if ← isAsyncProgram p program then runAlone p (← newRun program environment .none)
    else runSync p program environment .none
  let unused : Act (Option Fault) := do
    match ← Act.attempt (guardMember p guard "__exit__" [.none, .none, .none]) with
    | .ok _ => return none
    | .error e => return some e
  Act.ofResult (← conclude unused result)

/-! ### Cancellations -/

/-- Requests a cancellation; a request is reported before it takes effect. -/
def cancel (p : Performer) (self reason : Value) : Act Unit := do
  let before : Cancellation Value := ⟨← p.truth (← p.read self "cancelled"), .none⟩
  if let some announced := before.announced reason then
    reportAll p (.stopRequested announced)
    let c := before.cancel reason
    setAttribute p self "cancelled" (.bool c.cancelled)
    setAttribute p self "reason" c.reason

/-- Makes a cancellation one that was not requested. -/
def resetCancellation (p : Performer) (self : Value) : Act Unit := do
  let c := Cancellation.fresh Value.none
  setAttribute p self "cancelled" (.bool c.cancelled)
  setAttribute p self "reason" c.reason

/-- A new error that says why a run was cancelled. -/
def newCancelled (p : Performer) (reason : Value) : Act Value := do
  p.call (← classValue (.known "Cancelled")) [reason] []

/-! ### The pretend services of the registration example -/

/-- Prints a value on a line of its own. -/
def printLine (p : Performer) (v : Value) : Act Unit := do
  let line ← p.str v
  modify fun w => { w with printed := w.printed ++ line ++ "\n" }

/-- Gives the pretend database its tables. -/
def resetDatabase (p : Performer) (self : Value) : Act Unit := do
  let tables ← Registration.tables.mapM fun table => do return (table, ← newList [])
  setAttribute p self "tables" (← newNamedDict tables)

/-- The tables of the pretend database, which are lists in a dictionary. -/
def keeping (p : Performer) (self : Value) : Registration.Keeping Act Value where
  stores
    | .text query => return Registration.storesUser query
    | v => do p.truth (← p.method v "startswith" [.text "INSERT INTO users"] [])
  append table row := do
    let rows ← p.item (← p.read self "tables") (.text table)
    discard (p.method rows "append" [← newTuple row] [])
  give rows := do
    newList (← rows.mapM fun row => newNamedDict (row.map fun e => (e.1, .int e.2)))

/-- What the pretend database does when a query is awaited. -/
def runQuery (p : Performer) (self sql : Value) (params : List Value) : Act Value :=
  (keeping p self).query sql params

end Provision.Script
