import Provision.Script.Perform

/-!
Running a case: its steps in order, in one world.

A step that fails does not stop the case. `Result` is what is seen of one step: its value or its
error, and the events, the records and the printed text that came about in it.
-/

namespace Provision.Script

/-- What is seen of an error. -/
structure Failure where
  kind : ErrorKind
  details : List (String × Shown)
  /-- The variables that hold this very error. -/
  heldBy : List String

/-- What is seen of a step. -/
structure Result where
  outcome : Except Failure Shown
  events : List Shown
  records : Option (List LogEntry)
  printed : String

/-- The evaluator. -/
def performer : Performer := perform depthLimit

/-- The variables that hold a value, in order of their names. -/
def World.holders (w : World) (v : Value) : List String :=
  ((w.bound.filter fun e => e.2 == v).map (·.1)).mergeSort fun a b => !(b < a)

/-- What is seen of an error object now. -/
def failureOf (r : Nat) : Act Failure := do
  match (← get).errorAt? r with
  | some e =>
    let details ← errorDetails performer (snapshot performer) (.object r) e
    return ⟨e.kind, details, (← get).holders (.object r)⟩
  | none => return ⟨.runtime, [], []⟩

/-- Binds a variable of the case. -/
def bindVariable (name : Option String) (v : Value) : Act Unit :=
  match name with
  | some n => modify fun w => { w with bound := Bindings.insert n v w.bound }
  | none => pure ()

/-- Does what a step says; the outcome is shown as it is when the step ends. -/
def runStep (s : Step) : Act (Except Failure Shown) := do
  let result ← Act.attempt do
    let v ← evaluate performer [] s.code
    if s.awaits then awaitAlone performer v else return v
  match result with
  | .ok v =>
    bindVariable s.target v
    return .ok (← snapshot performer v)
  | .error e =>
    match ← e.object with
    | some r =>
      let failure ← failureOf r
      bindVariable s.errorTarget (.object r)
      return .error failure
    | none => return .error ⟨.runtime, [("message", .text "out of fuel")], []⟩

/-- Runs a step in a world, and looks at what came about in it. -/
def observe (logs : Bool) (s : Step) (w : World) : Result × World :=
  let start := { w with events := #[], records := #[], printed := "", handled := [] }
  match runStep s start with
  | .ok outcome w =>
    (⟨outcome, w.events.toList, if logs then some w.records.toList else none, w.printed⟩, w)
  | .error _ w => (⟨.error ⟨.runtime, [], []⟩, [], none, ""⟩, w)

/-- Runs the steps of a case one after the other. -/
def runSteps (logs : Bool) : List Step → World → List Result
  | [], _ => []
  | s :: rest, w =>
    let (result, w) := observe logs s w
    result :: runSteps logs rest w

/-- Makes an object of a function, with the values of the parameters that may be left out. -/
def defineFunction (f : Function) : Act Unit := do
  let defaults ← f.params.filterMapM fun q =>
    match q.2 with
    | some e => do return some (q.1, ← evaluate performer [] e)
    | none => return none
  match ← alloc (.function f defaults ⟨f.name, f.name, .none, .text "__main__", none⟩) with
  | .object r => modify fun w => { w with functions := w.functions ++ [(f.name, r)] }
  | _ => pure ()

/-- The world at the start of a case: every function of the script is an object. -/
def worldOf (functions : List Function) : World :=
  match functions.forM defineFunction World.empty with
  | .ok _ w => w
  | .error _ w => w

/-- Runs a case. -/
def Case.run (c : Case) : List Result := runSteps c.logs c.steps (worldOf c.functions)

/-! ### What an answer says -/

/-- A record of the log as it is shown. -/
def LogEntry.shown (e : LogEntry) : Shown := .list [.text e.level, .text e.logger, .text e.text]

/-- The result of a step as it is shown; what is empty is left out. -/
def Result.shown (r : Result) : Shown :=
  let outcome := match r.outcome with
    | .ok v => [("ok", v)]
    | .error f =>
      ("error", .text f.kind.name) :: f.details ++
        if f.heldBy.isEmpty then [] else [("is", .list (f.heldBy.map .text))]
  let events := if r.events.isEmpty then [] else [("events", Shown.list r.events)]
  let records := match r.records with
    | some entries => [("logs", Shown.list (entries.map LogEntry.shown))]
    | none => []
  let printed := if r.printed.isEmpty then [] else [("stdout", Shown.text r.printed)]
  .fields (outcome ++ events ++ records ++ printed)

end Provision.Script
