import Provision.Script.Suspension

/-!
Operations of asynchronous generators, and what is waited for.

An operation is an object of its own that is awaited once. While one is under way no other one may
begin; closing an operation only marks it, and leaves its generator as it is. `advanceAwaited`,
`throwIntoAwaited` and `closeAwaited` are what can be done with anything that is waited for.
-/

namespace Provision.Script

/-- A new operation; the first one ever made lets a running event loop know the generator. -/
def newOperation (r : Nat) (op : Operation) : Act Value := do
  let s ← suspendedAt r
  if !s.touched then
    put r (.suspended { s with touched := true })
    let w ← get
    if w.looping then
      set { w with loop := { w.loop with generators := w.loop.generators ++ [r] } }
  alloc (.operation r op .initial)

/-- Marks an asynchronous generator as having an operation under way, or not. -/
def setBusy (r : Nat) (busy : Bool) : Act Unit := do
  let s ← suspendedAt r
  put r (.suspended { s with busy := busy })

/-- Marks an asynchronous generator as told to close, or ended. -/
def setShut (r : Nat) : Act Unit := do
  let s ← suspendedAt r
  put r (.suspended { s with shut := true })

/-- Whether an error is one of the two by which an asynchronous generator ends. -/
def endsGenerator (e : Fault) : Bool :=
  match ErrorLike.nature e with
  | .asyncEnded => true
  | .closing => true
  | _ => false

/-- The outcome of an operation that takes a generator's payload for its result. -/
def unwrapped (r : Nat) : Except Fault Reply → Act Reply
  | .ok (.waits m) => return .waits m
  | .ok (.yields v) => do
    setBusy r false
    return .returns v
  | .ok (.returns _) => do
    setShut r
    setBusy r false
    raise .stopAsyncIteration []
  | .error e => do
    if endsGenerator e then setShut r
    setBusy r false
    throw e

/-- Does something, and marks an operation as closed unless it has to wait. -/
def closingAfter (o r : Nat) (op : Operation) (x : Act Reply) : Act Reply := do
  match ← Act.attempt x with
  | .ok (.waits m) => return .waits m
  | outcome =>
    put o (.operation r op .closed)
    Act.ofResult outcome

/-- Ends an operation that closes a generator. -/
def settleClosing (o r : Nat) : Except Fault Reply → Act Reply
  | .ok (.waits m) => return .waits m
  | outcome => do
    setBusy r false
    put o (.operation r .aclose .closed)
    match outcome with
    | .ok (.yields _) => complain .runtime "async generator ignored GeneratorExit"
    | .ok _ => return .returns .none
    | .error e => if endsGenerator e then return .returns .none else throw e

/-- Begins to throw an error into a generator, or to close it. -/
def beginThrow (p : Performer) (o r : Nat) (op : Operation) (v : Value) : Act Reply := do
  let s ← suspendedAt r
  let retire := put o (.operation r op .closed)
  let who := match op with
    | .aclose => "aclose()"
    | _ => "athrow()"
  if s.busy then
    retire
    complain .runtime (who ++ ": asynchronous generator is already running")
  else if s.shut then
    retire
    raise .stopAsyncIteration []
  else if v != .none then
    complain .runtime "can't send non-None value to a just-started coroutine"
  else
    put o (.operation r op .underway)
    setBusy r true
    match op with
    | .aclose =>
      setShut r
      settleClosing o r (← Act.attempt (do throwTo p r (← closingSignal) false))
    | .athrow args =>
      checkThrowCount "athrow" args
      closingAfter o r op do
        unwrapped r (← Act.attempt (do throwTo p r (← thrownBy p args) false))
    | .asend _ => return .returns .none

/-- Sends a value to an operation. -/
def sendToOperation (p : Performer) (o r : Nat) (op : Operation) (stage : OperationStage)
    (v : Value) : Act Reply := do
  match op, stage with
  | .asend _, .closed => complain .runtime "cannot reuse already awaited __anext__()/asend()"
  | _, .closed => complain .runtime "cannot reuse already awaited aclose()/athrow()"
  | .asend first, stage =>
    if stage = .initial && (← suspendedAt r).busy then
      complain .runtime "anext(): asynchronous generator is already running"
    let sent := if stage = .initial && v = .none then first else v
    put o (.operation r op .underway)
    setBusy r true
    closingAfter o r op (do unwrapped r (← Act.attempt (sendTo p r sent)))
  | _, stage =>
    if (← suspendedAt r).stage = .closed then
      put o (.operation r op .closed)
      return .returns .none
    else if stage = .initial then beginThrow p o r op v
    else
      let outcome ← Act.attempt (sendTo p r v)
      match op with
      | .aclose => settleClosing o r outcome
      | _ => unwrapped r outcome

/-- Throws an error into an operation. -/
def throwIntoOperation (p : Performer) (o r : Nat) (op : Operation) (stage : OperationStage)
    (e : Fault) : Act Reply := do
  match op, stage with
  | .asend _, .closed => complain .runtime "cannot reuse already awaited __anext__()/asend()"
  | _, .closed => complain .runtime "cannot reuse already awaited aclose()/athrow()"
  | .asend _, _ => closingAfter o r op (do unwrapped r (← Act.attempt (throwTo p r e true)))
  | .athrow _, _ => do unwrapped r (← Act.attempt (throwTo p r e true))
  | .aclose, _ =>
    match ← Act.attempt (throwTo p r e true) with
    | .ok (.yields v) => settleClosing o r (.ok (.yields v))
    | .ok (.waits m) => return .waits m
    | .ok (.returns _) => return .returns .none
    | .error e => if endsGenerator e then return .returns .none else throw e

/-! ### What is waited for -/

/-- Whether a value can be awaited. -/
def World.isAwaitable (w : World) (v : Value) : Bool :=
  match w.object? v with
  | some (.suspended s) => s.style = .coroutine
  | some (.operation ..) => true
  | some (.instance _) => (w.override? v "__await__").isSome
  | _ => false

/-- Refuses to await a value. -/
def refuseAwait {α : Type} (v : Value) : Act α := do
  complain .type ("object " ++ (← get).typeName v ++ " can't be used in 'await' expression")

/-- Throws an error into something that is waited for. -/
def throwIntoAwaited (p : Performer) (v : Value) (e : Fault) (closing : Bool) : Act Reply := do
  match v, ← look v with
  | .object r, some (.suspended _) => throwTo p r e closing
  | .object o, some (.operation r op stage) => throwIntoOperation p o r op stage e
  | _, some (.wrapper r) => throwTo p r e true
  | _, _ => throw e

/-- Closes something that is waited for. -/
def closeAwaited (p : Performer) (v : Value) : Act Unit := do
  match v, ← look v with
  | .object r, some (.suspended _) => shutDown p r
  | .object o, some (.operation r op _) => put o (.operation r op .closed)
  | _, some (.wrapper r) => shutDown p r
  | _, _ => pure ()

/-- What has to be gone through to await a value; a coroutine that somebody else awaits is refused. -/
def awaitedFor (p : Performer) (v : Value) : Act Value := do
  let w ← get
  if !w.isAwaitable v then refuseAwait v
  match w.object? v with
  | some (.suspended s) =>
    if s.stage = .suspended then
      complain .runtime "coroutine is being awaited already"
    else return v
  | some (.instance _) =>
    match w.override? v "__await__" with
    | some f =>
      let it ← callOverride p v f []
      let w ← get
      if w.isExactly it "coroutine" then complain .type "__await__() returned a coroutine"
      if !(← exposes p it "__next__") || (w.asClass? it).isSome then
        complain .type ("__await__() returned non-iterator of type '" ++ w.typeName it ++ "'")
      return it
    | none => refuseAwait v
  | _ => return v

end Provision.Script
