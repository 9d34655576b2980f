import Provision.Script.Host

/-!
Cooperative runs: runs that give way whenever their program waits.

A run is resumed piece by piece, and what it awaits is kept with it (`Drive`). Every level of a run
is a coroutine of its own. Values and errors go straight to what the innermost level awaits; closing
goes level by level, and a level that does not leave is given up (`unwind`).
-/

namespace Provision.Script

/-- The signal that an operation of the asynchronous protocol amounts to. -/
def asyncSignal : Except Fault Value → Signal Value Fault
  | .ok v => .yields v
  | .error e => if ErrorLike.nature e = .asyncEnded then .ends .none else .raises e

/-- Begins what a request asks of an asynchronous program: the operation that is awaited for it, and
its first reply. -/
def beginAsync (p : Performer) (program : Value) (how : Option (Resumption Value Fault)) :
    Act (Value × Reply) := do
  let awaited ← match how with
    | some (.send v) => p.method program "asend" [v] []
    | some (.throw e) => do p.method program "athrow" [← e.thrown] []
    | none => p.method program "aclose" [] []
  let awaited ← awaitedFor p awaited
  return (awaited, (← p (.advance awaited .none)).awaited)

/-- A request of a run that may have to wait. -/
structure AsyncRequest where
  /-- The levels that wait for a nested program. -/
  waiting : List (Level Value)
  program : Value
  /-- How the program is resumed, unless it is closed. -/
  how : Option (Resumption Value Fault)
  /-- How the talk goes on from the outcome. -/
  next : Except Fault Value → Talk Value Fault (Verdict Value Fault)

/-- What a run asks of an asynchronous program at this point, if it does. -/
def asyncRequest? : Run Value Fault → Option AsyncRequest
  | .active waiting (.ask (.resume .async program how) next) =>
    some ⟨waiting, program, some how, fun outcome => next (asyncSignal outcome)⟩
  | .active waiting (.ask (.close .async program) next) =>
    some ⟨waiting, program, none, fun outcome =>
      next (match outcome with | .ok _ => none | .error e => some e)⟩
  | _ => none

/-- How a cooperative run goes on: it waits, or it has come to its result. -/
inductive Progress where
  | waits (m : Mark) (d : Drive)
  | over (result : Except Fault Value)

/-- A verdict with the error object of its result made. -/
def Verdict.settled : Verdict Value Fault → Act (Verdict Value Fault)
  | .leave (.error e) => return .leave (.error (← e.settled))
  | verdict => return verdict

/-- Goes on with a cooperative run until it waits or is over, in at most so many steps. -/
def runCooperative (p : Performer) (d : Drive) : Nat → Run Value Fault → Act Progress
  | 0, _ => throw .spent
  | fuel + 1, run =>
    match asyncRequest? run with
    | some a => do
      match ← resultOf (beginAsync p a.program a.how) with
      | .ok (awaited, .waits m) => return .waits m { d with run := run, awaited := some awaited }
      | .ok (_, reply) => runCooperative p d fuel (.active a.waiting (a.next (.ok reply.value)))
      | .error e => runCooperative p d fuel (.active a.waiting (a.next (.error e)))
    | none =>
      match run with
      | .over result => return .over result
      | .active waiting (.done verdict) => do
        runCooperative p d fuel ((← Verdict.settled verdict).next d.manner waiting)
      | .active waiting (.ask r next) => do
        let a ← answer p d.environment d.cancellation r
        runCooperative p d fuel (.active waiting (next a))

/-- Goes on with a run when what it awaits has come to an outcome. -/
def proceedDrive (p : Performer) (d : Drive) (outcome : Except Fault Value) : Act Progress := do
  let d' := { d with awaited := none, handling := [] }
  match asyncRequest? d.run with
  | some a => runCooperative p d' stepLimit (.active a.waiting (a.next outcome))
  | none => runCooperative p d' stepLimit d.run

/-- Sends a value to a run: it starts, or passes the value on to what it awaits. -/
def sendToDrive (p : Performer) (d : Drive) (v : Value) : Act Progress := do
  match d.awaited with
  | none => runCooperative p d stepLimit d.run
  | some awaited =>
    match ← resultOf (do return (← p (.advance awaited v)).awaited) with
    | .ok (.waits m) => return .waits m d
    | .ok reply => proceedDrive p d (.ok reply.value)
    | .error e => proceedDrive p d (.error e)

/-- The error that a level comes to which was told to close; there is none if it left. -/
def levelProblem : Except Fault Progress → Act (Option Fault)
  | .ok (.waits ..) => do
    let ignored : Act Unit := complain .runtime "coroutine ignored GeneratorExit"
    problemOf ignored
  | .ok (.over (.ok _)) => return none
  | .ok (.over (.error e)) =>
    match ErrorLike.nature e with
    | .closing => return none
    | .ended => return none
    | _ => return some e
  | .error e => throw e

/-- Lets the levels of a run leave, from the inside to the outside. The innermost one goes on alone;
each of the others gets a closing signal, or else the error of the level within. The outermost one
gets the given signal and then goes on as usual. -/
def unwind (p : Performer) (d : Drive) (outer : List Nat) (signal : Fault) :
    List (Level Value) → Run Value Fault → Act Progress
  | [], run => runCooperative p d stepLimit run
  | l :: rest, run => do
    let progress ← Act.attempt (runCooperative p d stepLimit run)
    modify fun w => { w with handled := outer }
    let fault ← match ← levelProblem progress with
      | some e => pure e
      | none => if rest.isEmpty then pure signal else closingSignal
    unwind p d outer signal rest (.active [] (proceed d.manner l (.error fault)))

/-- Closes a run: first what it awaits, and then its levels. -/
def interruptDrive (p : Performer) (d : Drive) (outer : List Nat) (signal : Fault) :
    Act Progress := do
  let problem ← match d.awaited with
    | some awaited => problemOf (p (.close awaited))
    | none => pure none
  let d' := { d with awaited := none, handling := [] }
  match asyncRequest? d.run with
  | some a =>
    let fault ← match problem with
      | some e => pure e
      | none => if a.waiting.isEmpty then pure signal else closingSignal
    unwind p d' outer signal a.waiting (.active [] (a.next (.error fault)))
  | none => throw signal

/-- A coroutine that runs a program. -/
def newRun (program environment cancellation : Value) : Act Value :=
  newSuspended "run" .coroutine
    (.drive
      ⟨.cooperative, environment, cancellation, Run.start .cooperative program, none, []⟩)

/-- Starts a service program: the coroutine that runs the program that was built. -/
def serve (p : Performer) (service implementations cancellation : Value) : Act Value := do
  let (environment, blueprint) ← prepareService p service implementations
  let program ← Act.ofResult (← converseIn p environment blueprint.build)
  newRun program environment cancellation

end Provision.Script
