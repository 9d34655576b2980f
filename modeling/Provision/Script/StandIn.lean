import Provision.Script.StandIn.Assertion

/-!
Stand-ins: objects that take the place of a service and remember how they were used.

This is what the methods of stand-ins do (`standInMember`): the assertions, forgetting the calls
that were made, and setting up a stand-in together with those that are reached from it.
-/

namespace Provision.Script

/-! ### Settings -/

/-- Forgets how a stand-in and those reached from it were used, as far as so many steps reach. -/
def resetMock (p : Performer) (results effects : Bool) : Nat → List Nat → Value → Act (List Nat)
  | 0, seen, _ => return seen
  | depth + 1, seen, v => do
    match v, ← look v with
    | .object r, some (.mock m) =>
      if seen.contains r then return seen
      let list := alloc (.callList #[])
      putLog r "called" (.bool false)
      putLog r "call_args" .none
      putLog r "call_count" (.int 0)
      putLog r "mock_calls" (← list)
      putLog r "call_args_list" (← list)
      setAttribute p v "method_calls" (← list)
      modifyMock r fun m =>
        { m with
          result := if results then none else m.result
          effect := if effects then .none else m.effect }
      let seen ← (m.children.filterMap (·.2)).foldlM
        (fun seen c => resetMock p results effects depth seen c) (r :: seen)
      let seen ← match m.result with
        | some v => if results then pure seen else resetMock p false false depth seen v
        | none => pure seen
      if m.awaitable then
        putLog r "await_count" (.int 0)
        putLog r "await_args" .none
        putLog r "await_args_list" (← list)
      return seen
    | _, _ => return seen

/-- Sets attributes of a stand-in and of those reached from it, by names with dots; the shorter
paths come first. -/
def configureMock (p : Performer) (self : Value) (named : Named) : Act Unit := do
  let dots := fun (e : String × Value) => (e.1.splitOn ".").length
  let entries := named.mergeSort fun a b => dots a ≤ dots b
  entries.forM fun e => do
    let parts := e.1.splitOn "."
    let target ← parts.dropLast.foldlM p.read self
    setAttribute p target ((parts.getLast?).getD "") e.2

/-- Makes a stand-in an attribute of another one, whatever it was reached from before. -/
def attachMock (p : Performer) (self v : Value) (key : String) : Act Unit := do
  match v, ← look v with
  | .object r, some (.mock m) =>
    put r (.mock { m with name := .text "", pathName := none, pathParent := none, parent := none })
  | _, _ =>
    for key in ["_mock_parent", "_mock_new_parent"] do setAttribute p v key .none
    setAttribute p v "_mock_name" (.text "")
    setAttribute p v "_mock_new_name" .none
  setAttribute p self key v

/-- Restricts a stand-in to the names of a contract. -/
def respecify (p : Performer) (r : Nat) (contract : Value) (strict : Bool) : Act Unit := do
  match ← look (.object r) with
  | some (.mock m) =>
    let fresh :=
      { m with spec := none, listing := .none, names := none, asyncNames := [], signature := none }
    let made ← fresh.madeAfter p contract strict
    modifyMock r fun m =>
      { m with
        spec := made.spec
        listing := made.listing
        names := made.names
        strict := made.strict
        asyncNames := made.asyncNames
        signature := made.signature }
  | _ => pure ()

/-- A new stand-in of some class, with what it is told to be. -/
def newStandInOf (p : Performer) (cls : MockClass) (args : List Value) (named : Named) :
    Act Value := do
  let params := ["spec", "side_effect", "return_value", "wraps", "name", "spec_set", "parent",
    "_spec_state", "_new_name", "_new_parent"].map fun n => optional n .none
  let q : Parameters := { params := params, takesNamed := true }
  let given ← fitArguments "CallableMixin.__init__" q args named
  let bound (key : String) : Value := (given.bound.lookup key).getD .none
  let strict := bound "spec_set" != .none
  let contract := if strict then bound "spec_set" else bound "spec"
  let awaitable := cls = .async || contract != .none && (← get).isAwaited contract
  let above (key : String) : Option Nat :=
    match bound key with
    | .object r => some r
    | _ => none
  let parent := above "parent"
  let noted := ["_spec_as_instance", "_eat_self", "unsafe"]
  let plain : Mock :=
    { Mock.plain with
      cls := cls
      awaitable := awaitable
      name := bound "name"
      parent := parent
      pathName := (given.bound.lookup "_new_name").elim (some "") World.text?
      pathParent := (above "_new_parent").or parent
      result := given.bound.lookup "return_value"
      wraps := bound "wraps"
      lenient := ← p.truth ((given.named.lookup "unsafe").getD .none) }
  let v ← newStandIn (← plain.madeAfter p contract strict)
  configureMock p v (given.named.filter fun e => !noted.contains e.1)
  setAttribute p v "side_effect" (bound "side_effect")
  return v

/-- The names that are listed for a stand-in. -/
def standInNames (w : World) (r : Nat) (m : Mock) : List String :=
  let ofClass := m.lineage.flatMap fun c => ((classInfo? c).map ClassInfo.names).getD []
  let own := (w.own (.object r)).map (·.1)
  let listed := match w.object? m.listing with
    | some (.list items) => items.toList
    | some (.tuple items) => items
    | _ => []
  let names := listed.filterMap World.text? ++ ofClass.filter (fun n => !n.startsWith "_") ++
    own.filter (fun n => !n.startsWith "_" || isOperatorName n) ++
    (m.children.filter (·.2.isSome)).map (·.1)
  (names.eraseDups).mergeSort fun a b => !(b < a)

/-! ### Methods -/

/-- The assertions that only take a stand-in. -/
def bareAssertion? : String → Option (Bool × Expectation)
  | "assert_called_once" => some (false, .once)
  | "assert_called" => some (false, .some)
  | "assert_not_called" => some (false, .none)
  | "assert_awaited_once" => some (true, .once)
  | "assert_awaited" => some (true, .some)
  | "assert_not_awaited" => some (true, .none)
  | _ => none

/-- The assertions that take the arguments of a call. -/
def callAssertion? : String → Option (Bool × Expectation)
  | "assert_called_once_with" => some (false, .onceMatching)
  | "assert_called_with" => some (false, .matching)
  | "assert_any_call" => some (false, .any)
  | "assert_awaited_once_with" => some (true, .onceMatching)
  | "assert_awaited_with" => some (true, .matching)
  | "assert_any_await" => some (true, .any)
  | _ => none

/-- A method of a stand-in, with the values of its parameters and what else it was given. -/
def standInMember (p : Performer) (name : String) (r : Nat) (values : List Value)
    (rest : CallArgs) : Act Value := do
  let self := Value.object r
  let check (awaits : Bool) (e : Expectation) (call : CallArgs) : Act Value := do
    if awaits then assertAwaits p r e call else assertCalls p r e call
    return .none
  match bareAssertion? name, callAssertion? name with
  | some (awaits, e), _ => check awaits e ([], [])
  | _, some (awaits, e) => check awaits e rest
  | none, none =>
    match name, values with
    | "assert_has_calls", [calls, anyOrder] =>
      assertHas p r false calls (← p.truth anyOrder)
      return .none
    | "assert_has_awaits", [calls, anyOrder] =>
      assertHas p r true calls (← p.truth anyOrder)
      return .none
    | "configure_mock", _ => configureMock p self rest.2; return .none
    | "attach_mock", [v, key] =>
      match key with
      | .text key => attachMock p self v key; return .none
      | _ => complain .type "attribute name must be string"
    | "mock_add_spec", [contract, strict] | "_mock_add_spec", [contract, strict] =>
      respecify p r contract (← p.truth strict)
      return .none
    | "reset_mock", _ =>
      let flag (place : Nat) (key : String) : Act Bool := do
        let positional := (values[place]?).or ((rest.1)[place]?)
        p.truth ((positional.or (rest.2.lookup key)).getD (.bool false))
      let results ← flag 1 "return_value"
      discard (resetMock p results (← flag 2 "side_effect") depthLimit [] self)
      return .none
    | "_call_matcher", [call] => callMatcher p r call
    | "_calls_repr", [start] => return .text (← callsText p r (← p.str start))
    | "_format_mock_call_signature", [args, named] =>
      return .text (← spokenCall p r (← itemsOf p args) ((← get).namedOf named))
    | "_extract_mock_name", _ =>
      match ← look self with
      | some (.mock m) => return .text (← mockName p m)
      | _ => return .none
    | "__dir__", _ =>
      match ← look self with
      | some (.mock m) => newList ((standInNames (← get) r m).map .text)
      | _ => newList []
    | "__repr__", _ => return .text (← nativeRepr p self)
    | "__setattr__", [.text key, a] => setAttribute p self key a; return .none
    | "__delattr__", [.text key] => deleteAttribute p self key; return .none
    | "__getattr__", [key] =>
      match ← look self, key with
      | some (.mock m), .text key =>
        if mayHaveChild (← get) m key then childOf p r m key else noChild m key
      | some (.mock m), key =>
        if m.listing != .none then
          complain .attribute ("Mock object has no attribute " ++ (← p.repr key))
        else complain .type ("'" ++ (← get).typeName key ++ "' object is not subscriptable")
      | _, _ => return .none
    | "__call__", _ => callMock p r rest
    | "_mock_call", _ | "_execute_mock_call", _ => answerMock p r rest
    | "_mock_check_sig", _ | "__init__", _ | "_mock_set_magics", _ => return .none
    | "_get_child_mock", _ =>
      match ← look self with
      | some (.mock m) =>
        let key := ((rest.2.lookup "_new_name").bind World.text?).getD ""
        newStandInOf p ((← get).childClass m key) [] rest.2
      | _ => return .none
    | "_get_call_signature_from_name", [name] =>
      match ← look self with
      | some (.mock m) =>
        match ← signatureFor p m name with
        | some s => alloc (.symbol "Signature" s.text)
        | none => return .none
      | _ => return .none
    | "_format_mock_failure_message", [args, named, action] =>
      let expected ← spokenCall p r (← itemsOf p args) ((← get).namedOf named)
      return .text (← failureText p r (← p.str action) expected)
    | "_increment_mock_call", _ =>
      match ← look self with
      | some (.mock m) => recordCall p r m rest; return .none
      | _ => return .none
    | _, _ => noAttribute self name

end Provision.Script
