import Provision.Script.Snapshot

/-!
Suspended objects: resuming, throwing, closing.

A generator, an asynchronous generator or a coroutine is created, suspended, running or closed, and
each operation first looks at that (`sendTo`, `throwTo`, `shutDown`). An object may be suspended
because it waits for another one (`Body.awaited?`). A value that is sent to it passes through it; an
error that is thrown into it goes straight to the innermost one, and each goes on from the outcome
of the one within. Closing goes from the inside to the outside, one object after the other.
-/

namespace Provision.Script

/-! ### Raising and throwing -/

/-- An error of a class of errors, made of a value: nothing, several arguments, or one. What comes
out is the error that is made, or the one that came up on the way. -/
def errorOf (p : Performer) (cls value : Value) : Act Fault := do
  let w ← get
  let args := match value, w.object? value with
    | .none, _ => []
    | _, some (.tuple items) => items
    | v, _ => [v]
  match ← Act.attempt (p.call cls args []) with
  | .error .spent => throw .spent
  | .error e => e.settled
  | .ok v =>
    match v, ← look v with
    | .object r, some (.error e) => return .raised e.kind.nature r
    | _, _ => return .improper v

/-- What throwing a value amounts to: an error is thrown, of a class of errors a new one, and
anything else is no error. -/
def thrownFault (p : Performer) (v : Value) : Act Fault := do
  let w ← get
  match v, w.object? v, w.asClass? v with
  | .object r, some (.error e), _ => return .raised e.kind.nature r
  | _, _, some c =>
    if World.belongsTo "BaseException" c then errorOf p v .none else return .improper v
  | _, _, _ => return .improper v

/-- Refuses a wrong number of arguments of a method that throws. -/
def checkThrowCount (method : String) (args : List Value) : Act Unit := do
  if args.isEmpty then complain .type (method ++ " expected at least 1 argument, got 0")
  if args.length > 3 then
    complain .type (method ++ " expected at most 3 arguments, got " ++ toString args.length)

/-- What is thrown by the arguments of a method: an error, or a class of errors and what an error of
it is made of. -/
def thrownBy (p : Performer) : List Value → Act Fault
  | [] => return .improper .none
  | v :: rest => do
    let w ← get
    let value := rest.head?.getD .none
    let trace := (rest[1]?).getD .none
    if trace != .none && !w.isExactly trace "traceback" then
      complain .type "throw() third argument must be a traceback object"
    match w.asClass? v, w.object? v, value, w.object? value with
    | some c, _, value, given =>
      if !World.belongsTo "BaseException" c then return .improper v
      match value, given, c with
      | .object r, some (.error e), .known cls =>
        if isSubclass e.kind.name cls then return .raised e.kind.nature r else errorOf p v value
      | _, _, _ => errorOf p v value
    | none, some (.error _), .none, _ => thrownFault p v
    | none, some (.error _), _, _ =>
      complain .type "instance exception may not have a separate value"
    | _, _, _, _ => return .improper v

/-- Raises an error value; anything else cannot be raised. -/
def raiseValue {α : Type} (p : Performer) (v : Value) : Act α := do
  match ← thrownFault p v with
  | .raised _ r => raiseObject r
  | _ => complain .type "exceptions must derive from BaseException"

/-! ### Suspended objects -/

/-- The kind of a suspended object in the words of messages. -/
def styleWords : Style → String
  | .asyncGenerator => "async generator"
  | .coroutine => "coroutine"
  | _ => "generator"

/-- A new suspended object with a qualified and a plain name. -/
def newSuspendedAs (name plainName : String) (style : Style) (body : Body) : Act Value :=
  alloc (.suspended ⟨name, plainName, style, .created, body, false, false, false⟩)

/-- A new suspended object. -/
def newSuspended (name : String) (style : Style) (body : Body) : Act Value :=
  newSuspendedAs name (World.lastPart name) style body

/-- The suspended object at a reference. -/
def suspendedAt (r : Nat) : Act Suspended := do
  match ← look (.object r) with
  | some (.suspended s) => return s
  | _ => complain .type "not a suspended object"

/-- Moves a suspended object to another stage. -/
def setStage (r : Nat) (stage : Stage) : Act Unit := do
  let s ← suspendedAt r
  put r (.suspended { s with stage := stage })

/-- Does something while an object counts as running. -/
def whileRunning {α : Type} (r : Nat) (x : Act α) : Act (Except Fault α) := do
  setStage r .running
  let result ← Act.attempt x
  setStage r .suspended
  return result

/-- Raises the signal by which a generator ends. -/
def raiseEnd {α : Type} (v : Value) : Act α :=
  raise .stopIteration (if v = .none then [] else [v])

/-- The value an end signal carries. -/
def endValue (w : World) : Fault → Value
  | .raised _ r => ((w.errorAt? r).bind fun e => e.slots.lookup "value").getD .none
  | _ => .none

/-- The error that comes out of a body of some style; end signals do not come out as themselves. -/
def escaping (style : Style) (e : Fault) : Act Fault := do
  match style, e with
  | .generator, .raised .ended r =>
    return .raised .ordinary (← makeFrom .runtime "generator raised StopIteration" r)
  | .coroutine, e => (Boundary.coroutine.cross e).settled
  | .asyncGenerator, e => (Boundary.lifting.cross e).settled
  | _, e => return e

/-- A new closing signal. -/
def closingSignal : Act Fault := ErrorLike.exit (E := Fault) |>.settled

/-! ### What is waited for -/

/-- Whether a body closes what it waits for by itself. -/
def Body.closesWithin : Body → Bool
  | .drive _ => true
  | _ => false

/-- The errors that a suspended body is handling. -/
def Body.handling : Body → List Nat
  | .script f => f.pending.filterMap fun
    | .handling e _ => some e
    | .lastly (.raised (.raised _ e)) => some e
    | _ => none
  | .drive d => d.handling
  | _ => []

/-- What a suspended body waits for, if errors can be thrown into that. -/
def innerOf (b : Body) : Act (Option Value) := do
  match b.awaited? with
  | none => return none
  | some a =>
    match ← look a with
    | some (.iterator ..) => return none
    | _ => return some a

/-! ### Operations on suspended objects -/

/-- Refuses to throw what is no error. -/
def checkThrown (e : Fault) : Act Unit := do
  match e with
  | .improper _ => throw (← e.settled)
  | _ => pure ()

/-- Sends a value to a suspended object. -/
def sendTo (p : Performer) (r : Nat) (v : Value) : Act Reply := do
  let s ← suspendedAt r
  match s.stage with
  | .running => complain .value (styleWords s.style ++ " already executing")
  | .closed =>
    match s.style with
    | .coroutine => complain .runtime "cannot reuse already awaited coroutine"
    | .asyncGenerator => raise .stopAsyncIteration []
    | _ => return .returns .none
  | .created =>
    if v = .none then p (.resume r (.send v))
    else
      complain .type ("can't send non-None value to a just-started " ++ styleWords s.style)
  | .suspended => p (.resume r (.send v))

/-- Goes on with a body from the outcome of throwing into what it waited for. -/
def afterThrow (p : Performer) (r : Nat) : Except Fault Reply → Act Reply
  | .ok (.returns v) => p (.proceed r (.ok v))
  | .ok reply => return reply
  | .error .spent => throw .spent
  | .error e => do
    let e ← e.settled
    if ErrorLike.nature e = .ended then p (.proceed r (.ok (endValue (← get) e)))
    else p (.proceed r (.error e))

/-- Closes what a body waits for, and goes on with the body from a closing signal, or else from the
error that came out of closing. -/
def closeWithin (p : Performer) (r : Nat) (inner : Value) (e : Fault) : Act Reply := do
  match ← whileRunning r (p (.close inner)) with
  | .ok _ => p (.proceed r (.error e))
  | .error .spent => throw .spent
  | .error problem => do p (.proceed r (.error (← problem.settled)))

/-- Throws an error into a suspended object. -/
def throwTo (p : Performer) (r : Nat) (e : Fault) (closing : Bool) : Act Reply := do
  let s ← suspendedAt r
  let direct := do
    checkThrown e
    p (.resume r (.throw e))
  match s.stage with
  | .running =>
    checkThrown e
    complain .value (styleWords s.style ++ " already executing")
  | .closed =>
    checkThrown e
    if s.style = .coroutine then complain .runtime "cannot reuse already awaited coroutine"
    else throw e
  | .created =>
    checkThrown e
    setStage r .closed
    throw (← escaping s.style e)
  | .suspended =>
    let closes := closing && ErrorLike.nature e = .closing
    if closes && s.body.closesWithin then direct
    else
      match ← innerOf s.body with
      | none => direct
      | some inner =>
        if closes then closeWithin p r inner e
        else afterThrow p r (← whileRunning r (p (.throwInto inner e closing)))

/-- Closes a generator or coroutine. -/
def shutDown (p : Performer) (r : Nat) : Act Unit := do
  let s ← suspendedAt r
  match s.stage with
  | .running => complain .value (styleWords s.style ++ " already executing")
  | .closed => pure ()
  | .created => setStage r .closed
  | .suspended =>
    match ← Act.attempt (do throwTo p r (← closingSignal) true) with
    | .ok (.returns _) => pure ()
    | .ok _ => complain .runtime (styleWords s.style ++ " ignored GeneratorExit")
    | .error e =>
      match ErrorLike.nature e with
      | .closing => pure ()
      | .ended => pure ()
      | _ => throw e

end Provision.Script
