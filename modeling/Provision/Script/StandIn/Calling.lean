import Provision.Script.StandIn.Contract

/-!
Calling stand-ins.

A call is recorded by the stand-in itself and by those it was reached from (`recordCall`). It gives
the stand-in's result, a further stand-in unless another one was set, or does what its effect says;
one whose calls are awaited does so when the call is awaited (`awaitMock`).
-/

namespace Provision.Script

/-! ### Recorded calls -/

/-- A recorded call: its arguments, behind its name if it has one. -/
def newCall (name : Option String) (args named : Value) : Act Value :=
  allocWith (.call ((name.map Value.text).toList ++ [args, named]))
    [("_mock_name", .none), ("_mock_parent", .none), ("_mock_from_kall", .bool true)]

/-- What a stand-in remembers of its calls under a name. -/
def logged (r : Nat) (key : String) : Act Value := do
  match ← look (.object r) with
  | some (.mock m) => return (m.log.lookup key).getD .none
  | _ => return .none

/-- Remembers something of the calls of a stand-in. -/
def putLog (r : Nat) (key : String) (v : Value) : Act Unit :=
  modifyMock r fun m => { m with log := Bindings.insert key v m.log }

/-- Puts an item at the end of a list. -/
def pushTo (p : Performer) (list v : Value) : Act Unit := do
  match list, ← look list with
  | .object r, some (.callList items) => put r (.callList (items.push v))
  | _, _ => discard (p.method list "append" [v] [])

/-- Counts up a number that a stand-in remembers. -/
def countUp (p : Performer) (r : Nat) (key : String) : Act Unit := do
  putLog r key (← addValues p (← logged r key) (.int 1))

/-- Lets the stand-ins from which one was reached record a call of it, at most so many. `asMethod`
is the name for the calls of methods, as long as they are recorded. -/
def recordAbove (p : Performer) (args named : Value) :
    Nat → Option Nat → String → Bool → Option String → Act Unit
  | 0, _, _, _, _ => pure ()
  | _, none, _, _, _ => pure ()
  | n + 1, some r, pathName, isResult, asMethod => do
    match ← look (.object r) with
    | some (.mock m) =>
      if asMethod.isSome then
        pushTo p (← p.read (.object r) "method_calls") (← newCall asMethod args named)
      let asMethod := asMethod.bind fun name =>
        m.parent.map fun _ => ((World.text? m.name).getD "") ++ "." ++ name
      pushTo p (← logged r "mock_calls") (← newCall (some pathName) args named)
      let above := m.pathName.getD ""
      let longer := above ++ (if isResult then "" else ".") ++ pathName
      if above = "" then recordAbove p args named n m.pathParent pathName isResult asMethod
      else recordAbove p args named n m.pathParent longer (above = "()") asMethod
    | _ => pure ()

/-- Records a call of a stand-in. -/
def recordCall (p : Performer) (r : Nat) (m : Mock) (call : CallArgs) : Act Unit := do
  let args ← newTuple call.1
  let named ← newNamedDict call.2
  putLog r "called" (.bool true)
  countUp p r "call_count"
  let asCall ← newCall none args named
  putLog r "call_args" asCall
  pushTo p (← logged r "call_args_list") asCall
  pushTo p (← logged r "mock_calls") (← newCall (some "") args named)
  let pathName := m.pathName.getD ""
  recordAbove p args named (← get).store.size m.pathParent pathName (pathName = "()")
    (m.parent.map fun _ => (World.text? m.name).getD "")

/-! ### Results -/

/-- Whether a value is an error, or a class of errors. -/
def World.isError (w : World) (v : Value) : Bool :=
  match w.asClass? v, w.object? v with
  | some c, _ => World.belongsTo "BaseException" c
  | none, some (.error _) => true
  | _, _ => false

/-- What an operator gives that nobody set, for the operators whose result depends on the
stand-in. -/
def operatorDefault? (p : Performer) (m : Mock) (args : List Value) : Option (Act Value) :=
  match m.parent, m.pathParent, m.pathName, args with
  | none, some above, some "__eq__", [v] =>
    some (if v == .object above then return .bool true else notImplemented)
  | none, some above, some "__ne__", [v] =>
    some (if v == .object above then return .bool false else notImplemented)
  | none, some above, some "__str__", [] => some do return .text (← p.repr (.object above))
  | _, _, _, _ => none

/-- The result of a stand-in. -/
def mockResult (p : Performer) (r : Nat) (call : CallArgs) : Act Value := do
  match ← look (.object r) with
  | some (.mock m) =>
    match m.result, operatorDefault? p m call.1 with
    | some v, _ => return v
    | none, some default => default
    | none, none =>
      if m.wraps = .none then resultChild p r m else p.call m.wraps call.1 call.2
  | _ => return .none

/-- What the effect of a stand-in, if it has one, makes of a call: an error is raised, an iterator
is gone through call by call, and anything else is called. -/
def mockEffect (p : Performer) (m : Mock) (call : CallArgs) : Act (Option Value) := do
  let w ← get
  if m.effect = .none then return none
  else if w.isError m.effect then raiseValue p m.effect
  else if w.isCallable m.effect then return some (← p.call m.effect call.1 call.2)
  else
    match ← nextOf p m.effect with
    | none => raise .stopIteration []
    | some v => if (← get).isError v then raiseValue p v else return some v

/-- What a call of a stand-in gives, as far as it is not a matter of its records. -/
def answerMock (p : Performer) (r : Nat) (call : CallArgs) : Act Value := do
  match ← look (.object r) with
  | some (.mock m) =>
    if m.awaitable then
      newSuspended "AsyncMockMixin._execute_mock_call" .coroutine (.deferred r call)
    else
      match ← mockEffect p m call with
      | some v => return v
      | none => mockResult p r call
  | _ => return .none

/-- Calls a stand-in. -/
def callMock (p : Performer) (r : Nat) (call : CallArgs) : Act Value := do
  match ← look (.object r) with
  | some (.mock m) =>
    recordCall p r m call
    answerMock p r call
  | _ => return .none

/-- What happens when the call of an asynchronous stand-in is awaited: a value, or something that is
awaited in turn. -/
def awaitMock (p : Performer) (r : Nat) (call : CallArgs) : Act (Value × Bool) := do
  countUp p r "await_count"
  let asCall ← newCall none (← newTuple call.1) (← newNamedDict call.2)
  putLog r "await_args" asCall
  pushTo p (← logged r "await_args_list") asCall
  let w ← get
  match w.object? (.object r) with
  | some (.mock m) =>
    let isIterator := !w.isError m.effect && !w.isCallable m.effect && m.effect != .none
    match ← Act.attempt (mockEffect p m call) with
    | .ok (some v) => return (v, w.isCallable m.effect && w.makesCoroutine depthLimit m.effect)
    | .ok none =>
      let passedOn := m.result.isNone && w.makesCoroutine depthLimit m.wraps
      return (← mockResult p r call, passedOn)
    | .error e =>
      match isIterator, ErrorLike.nature e, e with
      | true, .ended, .raised _ stop =>
        let ended ← makeError .stopAsyncIteration []
        chainTo ended stop
        leaveTrace ended
        throw (.raised .asyncEnded ended)
      | _, _, _ => throw e
  | _ => return (.none, false)

end Provision.Script
