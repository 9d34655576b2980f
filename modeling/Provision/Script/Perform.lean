import Provision.Delegation
import Provision.Script.Frame

/-!
Performing jobs: the knot of the evaluator.

`resumeBody` resumes whatever computation a suspended object holds, and `perform` dispatches a job
to the part that does it, giving that part a performer with one unit of fuel less. The fuel bounds
how deep calls are nested, not how long they take.
-/

namespace Provision.Script

/-! ### Bodies -/

/-- The arguments of a routine's call. -/
def wordValue : Word Value → Value
  | .text s => .text s
  | .value v => v

/-- The methods that routines expect of a service, with their parameters; one is marked if it is
awaited. -/
def serviceMethods (name : String) : List (String × Bool × List String) :=
  match name with
  | "Logger" => [("info", false, ["message"])]
  | "Database" => [("query", true, ["sql"]), ("count", false, ["table"])]
  | _ => []

/-- The token that routines ask for a service with, the same one every time. -/
def serviceToken (name : String) : Act Value :=
  sharedObject ("token " ++ name) do
    let cls := name ++ "Contract"
    let own ← (serviceMethods name).mapM fun (method, awaited, params) => do
      let code : Function :=
        { name := method
          style := if awaited then .coroutine else .plain
          params := ("self" :: params).map fun q => (q, none)
          rest := if awaited then some "params" else none
          body := [] }
      let naming : Naming :=
        ⟨method, cls ++ "." ++ method, .none, .text "examples.registration", none⟩
      return (method, ← alloc (.function code [] naming))
    let contract ← allocWith (.contract cls)
      (("__module__", .text "examples.registration") :: own)
    newToken (.text name) contract

/-- How routines of scripts do their calls. What has to wait is kept beside its mark. -/
def routineHands (p : Performer) : Hands Act Value (Mark × Value) where
  call object method args := p.method object method (args.map wordValue) []
  await object method args := do
    let awaited ← awaitedFor p (← p.method object method (args.map wordValue) [])
    match (← p (.advance awaited .none)).awaited with
    | .waits m => return .inl (m, awaited)
    | reply => return .inr reply.value
  describe v := p.str v

/-- Goes on with a routine until it suspends or ends. -/
def runRoutine (p : Performer) (style : Style) (r : Routine Value) : Act (Reply × Body) := do
  match ← r.advance (routineHands p) with
  | .finished v =>
    if style = .asyncGenerator then
      return (.yields (← newCompletion v), .constant .none)
    else return (.returns v, .constant .none)
  | .asks service next =>
    let token ← serviceToken service
    return (.yields token, .routine r (some next) none)
  | .nests name inner next =>
    let nested ← newSuspended name .generator (.routine inner none none)
    return (.yields nested, .routine r (some next) none)
  | .waits (m, awaited) next => return (.waits m, .routine r (some next) (some awaited))

/-- Resumes a routine with a value. -/
def resumeRoutine (p : Performer) (style : Style) (r : Routine Value)
    (next : Option (Value → Routine Value)) (awaited : Option Value) (v : Value) :
    Act (Reply × Body) := do
  match next, awaited with
  | none, _ => runRoutine p style r
  | some next, none => runRoutine p style (next v)
  | some next, some a =>
    match (← p (.advance a v)).awaited with
    | .waits m => return (.waits m, .routine r (some next) (some a))
    | reply => runRoutine p style (next reply.value)

/-- A run's progress as a reply. The errors that a waiting run is handling are those in front of
those of whoever resumed it. -/
def driveReply (outer : List Nat) : Progress → Act (Reply × Body)
  | .waits m d => do
    let handled := (← get).handled
    return (.waits m,
      .drive { d with handling := handled.take (handled.length - outer.length) })
  | .over (.ok v) => return (.returns v, .constant v)
  | .over (.error e) => throw e

/-- Resumes the lifted form of a program. -/
def resumeLifted (p : Performer) (program : Value) (stage : Lifting.Stage)
    (how : Resumption Value Fault) : Act (Reply × Body) := do
  let (stage, step) ← converse p (Lifting.resume program stage how)
  match step with
  | .yields v => return (.yields v, .lifted program stage)
  | .delivers v => return (.yields (← newCompletion v), .lifted program stage)
  | .ends => return (.returns .none, .lifted program stage)
  | .raises e => throw e

/-- What a body that awaits something makes of its reply. -/
def waitingReply (inner : Value) (reply : Reply) : Reply × Body :=
  match reply.awaited with
  | .waits m => (.waits m, .waiting inner true)
  | reply => (.returns reply.value, .constant reply.value)

/-- Begins to await something. -/
def beginWaiting (p : Performer) (v : Value) : Act (Reply × Body) := do
  let inner ← awaitedFor p v
  return waitingReply inner (← p (.advance inner .none))

/-- The reply that a response is. -/
def signalReply : Signal Value Fault → Act Reply
  | .yields v => return .yields v
  | .ends v => return .returns v
  | .raises e => throw e

/-- Goes on with the iteration of a composed environment. -/
def resumeArrivals (p : Performer) (environment given : Value)
    (progress : Option (Value × Option Value)) : Act (Reply × Body) := do
  match ← Act.attempt (nextArrival p environment given progress) with
  | .ok (name?, progress) =>
    return (match name? with
      | some name => .yields name
      | none => .returns .none, .arrivals environment given progress)
  | .error .spent => throw .spent
  | .error e => throw (← e.settled)

/-- Resumes the computation of a suspended object. -/
def resumeBody (p : Performer) (style : Style) (outer : List Nat) (body : Body)
    (how : Resumption Value Fault) : Act (Reply × Body) := do
  match body, how with
  | .script f, how => do
    let (reply, f) ← resumeFrame p outer f how
    return (reply, .script f)
  | .request token begun, how => do
    return (← signalReply (iteration token begun how), .request token true)
  | .arrivals environment given progress, .send _ => resumeArrivals p environment given progress
  | .lifted program stage, how => resumeLifted p program stage how
  | .routine r next awaited, .send v => resumeRoutine p style r next awaited v
  | .drive d, .send v => do driveReply outer (← sendToDrive p d v)
  | .drive d, .throw e => do driveReply outer (← interruptDrive p d outer e)
  | .serve service implementations cancellation, .send _ => do
    beginWaiting p (← serve p service implementations cancellation)
  | .waiting inner false, .send _ => beginWaiting p inner
  | .waiting inner true, .send v => return waitingReply inner (← p (.advance inner v))
  | .sleep false, .send _ => return (.waits .turn, .sleep true)
  | .sleep true, .send _ => return (.returns .none, .sleep true)
  -- what gives way is a generator of its own
  | .sleep true, .throw e => throw (← escaping .generator e)
  | .gather members none, .send _ => do
    match ← beginGroup p members with
    | some g => return (.waits (.group g), .gather members (some g))
    | none => return (.returns (← newList []), .gather members none)
  | .gather members (some g), .send _ => do
    return (.returns (← groupResults g), .gather members (some g))
  | .deferred standIn call, .send _ => do
    let (v, awaited) ← awaitMock p standIn call
    if awaited then beginWaiting p v else return (.returns v, .constant v)
  | .query database sql params, .send _ => do
    return (.returns (← runQuery p database sql params), .constant .none)
  | .constant v, .send _ => return (.returns v, .constant v)
  | _, .throw e => throw e

/-- Goes on with a computation when what it waited for has come to an outcome. -/
def proceedBody (p : Performer) (style : Style) (outer : List Nat) (body : Body)
    (outcome : Except Fault Value) : Act (Reply × Body) := do
  match body, outcome with
  | .script f, outcome => do
    let (reply, f) ← proceedFrame p outer f outcome
    return (reply, .script f)
  | .drive d, outcome => do driveReply outer (← proceedDrive p d outcome)
  | .routine _ (some next) _, .ok v => runRoutine p style (next v)
  | _, .ok v => return (.returns v, .constant v)
  | _, .error e => throw e

/-- Lets a suspended object run, whatever its stage, and keeps where it stands afterwards. An error
that is raised inside it has the latest error it is handling for its context. -/
def runObject (r : Nat) (raised : Option Fault)
    (run : Style → List Nat → Body → Act (Reply × Body)) : Act Reply := do
  let s ← suspendedAt r
  let outer := (← get).handled
  let own := s.body.handling
  match raised, own with
  | some (.raised _ e), h :: _ => chainTo e h
  | _, _ => pure ()
  setStage r .running
  modify fun w => { w with handled := own ++ outer }
  let result ← Act.attempt (run s.style outer s.body)
  modify fun w => { w with handled := outer }
  match result with
  | .ok (reply, body) =>
    let stage := match reply with
      | .returns _ => Stage.closed
      | _ => Stage.suspended
    put r (.suspended { (← suspendedAt r) with stage := stage, body := body })
    return reply
  | .error e =>
    setStage r .closed
    throw (← escaping s.style e)

/-! ### The knot -/

/-- Performs a job with a performer for the jobs that it needs in turn. -/
def performWith (p : Performer) : Job → Act Reply
  | .call f args named => return .returns (← callValue p f args named)
  | .read v key => return .returns (← getAttribute p v key)
  | .item container key => return .returns (← getItem p container key)
  | .describe v plain =>
    return .returns (.text (← if plain then strOf p v else reprOf p v))
  | .compare c a b => return .returns (← compareValues p c a b)
  | .iterate v => return .returns (← iteratorOf p v)
  | .judge v => return .returns (.bool (← truthOf p v))
  | .resume r how =>
    let raised := match how with
      | .throw e => some e
      | .send _ => none
    runObject r raised fun style outer body => resumeBody p style outer body how
  | .proceed r outcome =>
    let raised := match outcome with
      | .error e => some e
      | .ok _ => none
    runObject r raised fun style outer body => proceedBody p style outer body outcome
  | .advance v x => advanceAwaited p v x
  | .throwInto v e closing => throwIntoAwaited p v e closing
  | .close v => do
    closeAwaited p v
    return .returns .none

/-- Performs a job; an error says that calls are nested deeper than the fuel. -/
def perform : Nat → Job → Act Reply
  | 0, _ => complain .recursion "maximum recursion depth exceeded"
  | fuel + 1, job => performWith (perform fuel) job

end Provision.Script
