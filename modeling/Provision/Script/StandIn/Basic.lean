import Provision.Script.Job
import Provision.Text.Quoted

/-!
Stand-ins: what they have under a name, and what can be set on them.

A stand-in has the methods of its class, what was set on it, and under every other name a child
which is made when it is first asked for (`childOf`). One that is restricted to the names of a
contract has no others. Operators are found on the class alone: they are there if they were set, and
the richer classes have some to begin with.
-/

namespace Provision.Script

/-! ### Names -/

/-- The operators that take two sides, with and without the letter that says in which order. -/
def numericOperators : List String :=
  ["add", "sub", "mul", "matmul", "truediv", "floordiv", "mod", "lshift", "rshift", "and", "xor",
    "or", "pow"]

/-- A name between double underscores. -/
def dunder (n : String) : String := "__" ++ n ++ "__"

/-- The operators of the asynchronous protocol. -/
def asyncOperators : List String := ["aenter", "aexit", "anext"].map dunder

/-- The operators that stand-ins of the richer classes answer from the start. -/
def givenOperators : List String :=
  (["lt", "gt", "le", "ge", "eq", "ne", "getitem", "setitem", "delitem", "len", "contains", "iter",
    "hash", "str", "sizeof", "enter", "exit", "divmod", "rdivmod", "neg", "pos", "abs", "invert",
    "complex", "int", "float", "index", "round", "trunc", "floor", "ceil", "bool", "next", "fspath",
    "aiter"] ++ numericOperators ++ numericOperators.map ("i" ++ ·) ++
    numericOperators.map ("r" ++ ·)).map dunder ++ asyncOperators

/-- The operators that can be set on a stand-in. -/
def settableOperators : List String :=
  givenOperators ++ ["get", "set", "delete", "reversed", "missing", "reduce", "reduce_ex",
    "getinitargs", "getnewargs", "getstate", "setstate", "getformat", "repr", "dir", "subclasses",
    "format", "getnewargs_ex"].map dunder

/-- The operators that cannot be set on a stand-in. -/
def refusedOperators : List String :=
  ["getattr", "setattr", "init", "new", "prepare", "instancecheck", "subclasscheck", "del"].map
    dunder

/-- Whether a name would be taken for an assertion that a stand-in does not know. -/
def looksLikeAssertion (key : String) : Bool :=
  ["assert", "assret", "asert", "aseert", "assrt"].any fun start => key.startsWith start

/-- Whether a name is that of an operator. -/
def isOperatorName (key : String) : Bool :=
  key.startsWith "__" && key.endsWith "__" && key.length > 4

/-- What a stand-in remembers of its calls, by name. -/
def logNames (awaitable : Bool) : List String :=
  ["called", "call_count", "call_args", "call_args_list", "mock_calls"] ++
    if awaitable then ["await_count", "await_args", "await_args_list"] else []

/-- The classes that a stand-in has its methods from. -/
def Mock.lineage (m : Mock) : List String :=
  (if m.awaitable then ["AsyncMockMixin"] else []) ++ Script.lineage m.cls.name

/-- The class from which a stand-in has a method, and the kind of the method. -/
def Mock.definingClass? (m : Mock) (key : String) : Option (String × MemberKind) :=
  m.lineage.findSome? fun c =>
    (classInfo? c).bind fun info => (info.kind? key).map fun kind => (c, kind)

/-- The path by which a stand-in was reached from the first one, in at most so many steps: the parts
of it, and the first stand-in. -/
def mockPath (w : World) : Nat → List String → String → Mock → List String × Mock
  | 0, parts, _, m => (parts, m)
  | depth + 1, parts, dot, m =>
    match m.pathParent.bind fun r => w.object? (.object r) with
    | some (.mock parent) =>
      let part := parent.pathName.getD ""
      mockPath w depth ((part ++ dot) :: parts) (if part = "()" then "" else ".") parent
    | _ => (parts, m)

/-- The full name of a stand-in. -/
def mockName (p : Performer) (m : Mock) : Act String := do
  let last := m.pathName.getD ""
  let (parts, start) := mockPath (← get) depthLimit [last] (if last = "()" then "" else ".") m
  let first ←
    if ← p.truth start.name then
      match start.name with
      | .text name => pure name
      | name =>
        complain .type ("sequence item 0: expected str instance, " ++ (← get).typeName name ++
          " found")
    else pure "mock"
  match parts with
  | _ :: second :: rest =>
    let dot := if second = "()" || second = "()." then "" else "."
    return first ++ dot ++ String.join (second :: rest)
  | _ => return first

/-! ### Making -/

/-- What a stand-in remembers of its calls before the first one. -/
def emptyLog (awaitable : Bool) : Act (List (String × Value)) := do
  let list := alloc (.callList #[])
  let calls := [("called", Value.bool false), ("call_count", .int 0), ("call_args", .none),
    ("call_args_list", ← list), ("mock_calls", ← list)]
  let awaits ←
    if awaitable then
      pure [("await_count", Value.int 0), ("await_args", .none), ("await_args_list", ← list)]
    else pure []
  return calls ++ awaits

/-- The attributes by which a stand-in whose calls are awaited passes for a function. -/
def functionGuise : Act (List (String × Value)) := do
  let code ← alloc (.symbol "code" "<NonCallableMock spec_set='code'>")
  let defaults ← newTuple []
  let named ← newNamedDict []
  return [("__code__", code), ("__name__", .text "AsyncMock"), ("__defaults__", defaults),
    ("__kwdefaults__", named), ("__annotations__", .none)]

/-- A new stand-in, which was not called yet. -/
def newStandIn (m : Mock) : Act Value := do
  let log ← emptyLog m.awaitable
  let methodCalls ← alloc (.callList #[])
  let guise ← if m.awaitable then functionGuise else pure []
  allocWith (.mock { m with log := log }) (("method_calls", methodCalls) :: guise)

/-- A stand-in that was reached from nowhere, made after nothing. -/
def Mock.plain : Mock :=
  { cls := .plain, awaitable := false, name := .none, pathName := some "", pathParent := none
    parent := none, spec := none, names := none, strict := false, asyncNames := []
    signature := none, listing := .none, children := [], operators := [], log := [], result := none, effect := .none
    wraps := .none, lenient := false, closed := false }

/-- Whether the names that a stand-in is restricted to include one, if it is restricted. -/
def World.listed? (w : World) (m : Mock) (key : String) : Option Bool :=
  match m.listing, w.object? m.listing with
  | .none, _ => none
  | _, some (.list items) => some (items.contains (.text key))
  | _, some (.tuple items) => some (items.contains (.text key))
  | _, _ => some false

/-- The class of the child of a stand-in under a name. -/
def World.childClass (w : World) (m : Mock) (key : String) : MockClass :=
  if m.asyncNames.contains key then .async
  else if m.cls = .magic && asyncOperators.contains key then .async
  else if m.awaitable then
    let isSync := givenOperators.contains key && !asyncOperators.contains key
    if isSync || (w.listed? m key).getD false then .magic else .async
  else m.cls

/-- A new child of a stand-in under a name, or what calling it gives. -/
def newChild (p : Performer) (r : Nat) (m : Mock) (key : String) (wraps : Value) : Act Value := do
  let cls := (← get).childClass m key
  let isResult := key = "()"
  if m.closed then
    let path := (← mockName p m) ++ if isResult then "" else "."
    complain .attribute (path ++ key)
  newStandIn
    { Mock.plain with
      cls := cls
      wraps := wraps
      awaitable := cls = .async
      name := if isResult then .none else .text key
      pathName := some key
      pathParent := some r
      parent := if isResult || isOperatorName key then none else some r }

/-- Changes the stand-in at a reference. -/
def modifyMock (r : Nat) (f : Mock → Mock) : Act Unit := do
  match ← look (.object r) with
  | some (.mock m) => put r (.mock (f m))
  | _ => pure ()

/-- The child of a stand-in under a name, made when it is first asked for. -/
def childOf (p : Performer) (r : Nat) (m : Mock) (key : String) : Act Value := do
  match m.children.lookup key with
  | some (some v) => return v
  | some none => complain .attribute key
  | none =>
    let v ← newChild p r m key (← if m.wraps = .none then pure .none else p.read m.wraps key)
    modifyMock r fun m => { m with children := m.children ++ [(key, some v)] }
    return v

/-- What stands for a result that was not set. -/
def noResult : Act Value :=
  sharedObject "no result" (alloc (.symbol "_SentinelObject" "sentinel.DEFAULT"))

/-- The result of a stand-in, made when it is first asked for unless calls go on to something. -/
def resultChild (p : Performer) (r : Nat) (m : Mock) : Act Value := do
  match m.result with
  | some v => return v
  | none =>
    if m.wraps != .none then noResult
    else
      let v ← newChild p r m "()" .none
      modifyMock r fun m => { m with result := some v }
      return v

/-! ### Operators -/

/-- What a stand-in for an operator gives unless something else was set. -/
def operatorResult? (r : Nat) (key : String) : Option (Act Value) :=
  match key with
  | "__len__" => some (return .int 0)
  | "__contains__" | "__exit__" | "__aexit__" => some (return .bool false)
  | "__bool__" => some (return .bool true)
  | "__int__" | "__index__" => some (return .int 1)
  | "__hash__" => some (return .int (r * 16))
  | "__sizeof__" => some (return .int 48)
  | "__iter__" => some (alloc (.iterator "list_iterator" (some (.items #[] 0))))
  | "__lt__" | "__gt__" | "__le__" | "__ge__" => some notImplemented
  | _ => none

/-- Whether a stand-in of one of the richer classes has an operator from the start. -/
def givenOperator? (m : Mock) (key : String) : Bool :=
  m.cls != .plain && givenOperators.contains key &&
    (m.names.map fun names => names.contains key).getD true &&
    !(m.children.lookup key == some none)

/-- The stand-in for an operator, made when it is first asked for. -/
def operatorChild (p : Performer) (r : Nat) (m : Mock) (key : String) : Act Value := do
  let v ← newChild p r m key .none
  match v, operatorResult? r key with
  | .object c, some result =>
    let result ← result
    modifyMock c fun child => { child with result := some result }
  | _, _ => pure ()
  putOwn r key v
  modifyMock r fun m =>
    { m with
      operators := Bindings.insert key v m.operators
      children := Bindings.insert key (some v) m.children }
  return v

/-- What the class of a stand-in has for an operator, ready to be called. -/
def mockOperator? (p : Performer) (r : Nat) (m : Mock) (key : String) : Act (Option Value) := do
  match m.operators.lookup key with
  | some v => return some v
  | none => if givenOperator? m key then return some (← operatorChild p r m key) else return none

/-! ### Reading -/

/-- The error for a name that a stand-in does not have. -/
def noChild {α : Type} (m : Mock) (key : String) : Act α := do
  match (← get).listed? m key with
  | some _ => complain .attribute ("Mock object has no attribute " ++ Text.quoted key)
  | none =>
    if isOperatorName key then complain .attribute key
    else
      complain .attribute
        (Text.quoted key ++ " is not a valid assertion. Use a spec for the mock if " ++
          Text.quoted key ++ " is meant to be an attribute.")

/-- Whether a stand-in has a child under a name, if it was not deleted. -/
def mayHaveChild (w : World) (m : Mock) (key : String) : Bool :=
  match w.listed? m key with
  | some isListed => isListed && !settableOperators.contains key
  | none => !isOperatorName key && (m.lenient || !looksLikeAssertion key)

/-- What a stand-in has in the place of a property. -/
def mockProperty (p : Performer) (w : World) (r : Nat) (m : Mock) (key : String) : Act Value := do
  match key with
  | "return_value" => resultChild p r m
  | "side_effect" => return m.effect
  | "__class__" =>
    match m.spec with
    | some cls => return cls
    | none => classValue (w.classOf (.object r))
  | key => return (m.log.lookup key).getD .none

/-- The names of what a stand-in keeps for itself. -/
def privateNames (awaitable : Bool) : List String :=
  ["_mock_return_value", "_mock_parent", "_mock_name", "_mock_new_name", "_mock_new_parent",
    "_mock_sealed", "_spec_class", "_spec_set", "_spec_signature", "_mock_methods", "_spec_asyncs",
    "_mock_children", "_mock_wraps", "_mock_delegate", "_mock_called", "_mock_call_args",
    "_mock_call_count", "_mock_call_args_list", "_mock_mock_calls", "_mock_unsafe",
    "_mock_side_effect"] ++
    if awaitable then
      ["_is_coroutine", "_mock_await_count", "_mock_await_args", "_mock_await_args_list"]
    else []

/-- Parameters in words. -/
def Signature.text (s : Signature) : String :=
  let params := s.params.map (·.1) ++ (if s.takesRest then ["*args"] else []) ++
    if s.takesNamed then ["**kwargs"] else []
  "<Signature (" ++ ", ".intercalate params ++ ")>"

/-- What a stand-in keeps for itself under a name. -/
def privateValue (m : Mock) (key : String) : Act Value := do
  let named (ns : List String) : Act Value := newList (ns.map .text)
  let above (parent : Option Nat) : Value := (parent.map Value.object).getD .none
  match key with
  | "_mock_return_value" => (m.result.map pure).getD noResult
  | "_mock_parent" => return above m.parent
  | "_mock_name" => return m.name
  | "_mock_new_name" => return (m.pathName.map Value.text).getD .none
  | "_mock_new_parent" => return above m.pathParent
  | "_mock_sealed" => return .bool m.closed
  | "_spec_class" => return m.spec.getD .none
  | "_spec_set" => return if m.strict then .bool true else .none
  | "_spec_signature" =>
    match m.signature with
    | some s => alloc (.symbol "Signature" s.text)
    | none => return .none
  | "_mock_methods" => return m.listing
  | "_spec_asyncs" => named m.asyncNames
  | "_mock_children" =>
    let deleted := sharedObject "deleted" (alloc (.symbol "_SentinelObject" "sentinel.DELETED"))
    newNamedDict (← m.children.mapM fun e => do return (e.1, ← (e.2.map pure).getD deleted))
  | "_mock_wraps" => return m.wraps
  | "_mock_unsafe" => return .bool m.lenient
  | "_mock_side_effect" => return m.effect
  | "_is_coroutine" => sharedObject key (alloc (.instance (.known "object")))
  | "_mock_mock_calls" => return (m.log.lookup "mock_calls").getD .none
  | key => return (m.log.lookup (String.ofList (key.toList.drop "_mock_".length))).getD .none

/-- What a stand-in has under a name. -/
def mockAttribute (p : Performer) (bind : String → MemberKind → Act Value) (r : Nat) (m : Mock)
    (key : String) : Act Value := do
  let w ← get
  match m.definingClass? key, w.ownOf? (.object r) key with
  | some (_, .property), _ => mockProperty p w r m key
  | some ("object", .computed), _ => mockProperty p w r m key
  | _, some v => return v
  | found, none =>
    if givenOperator? m key then operatorChild p r m key
    else
      match found with
      | some (owner, kind) => bind owner kind
      | none =>
        if key = "__doc__" then return .none
        else if (privateNames m.awaitable).contains key then privateValue m key
        else if mayHaveChild w m key then childOf p r m key
        else noChild m key

/-! ### Setting -/

/-- Whether a value has any of the names that a stand-in goes by. -/
def Mock.isReached (m : Mock) : Bool :=
  m.name != .none && m.name != .text "" || m.pathName.any (· != "") || m.parent.isSome ||
    m.pathParent.isSome

/-- Gives a stand-in that was set as an attribute of another its place there, unless it has one. -/
def attachChild (parent : Nat) (v : Value) (key : Option String) (pathName : String) :
    Act Bool := do
  match v, ← look v with
  | .object r, some (.mock m) =>
    if m.isReached then return false
    let above := (← get).store.size
    if r = parent || (← isAbove above r parent) then return false
    put r (.mock { m with
      name := (key.map Value.text).getD m.name
      parent := if key.isSome then some parent else m.parent
      pathName := some pathName
      pathParent := some parent })
    return true
  | _, _ => return false
where
  /-- Whether a stand-in is on the path to another one. -/
  isAbove : Nat → Nat → Nat → Act Bool
    | 0, _, _ => return false
    | n + 1, r, start => do
      match ← look (.object start) with
      | some (.mock m) =>
        match m.pathParent with
        | some up => if up = r then return true else isAbove n r up
        | none => return false
      | _ => return false

/-- Sets an operator of a stand-in. A function is called with the stand-in in front of the other
arguments; another stand-in is called without it. -/
def setOperator (r : Nat) (m : Mock) (key : String) (a : Value) : Act Unit := do
  if !(((← get).listed? m key).getD true) then
    complain .attribute ("Mock object has no attribute '" ++ key ++ "'")
  match ← look a with
  | some (.mock _) =>
    discard (attachChild r a none key)
    modifyMock r fun m =>
      { m with
        operators := Bindings.insert key a m.operators
        children := Bindings.insert key (some a) m.children }
    putOwn r key a
  | _ =>
    let method ← alloc
      (.prepended (.object r) a "NonCallableMock.__setattr__.<locals>.<lambda>")
    modifyMock r fun m => { m with operators := Bindings.insert key method m.operators }
    putOwn r key method

/-- A stand-in with something else in the place of what it keeps for itself under a name. -/
def withPrivate (p : Performer) (m : Mock) (key : String) (a : Value) : Act (Option Mock) := do
  let place : Option Nat :=
    match a with
    | .object r => some r
    | _ => none
  match key with
  | "_mock_return_value" => return some { m with result := some a }
  | "_mock_side_effect" => return some { m with effect := a }
  | "_mock_name" => return some { m with name := a }
  | "_mock_parent" => return some { m with parent := place }
  | "_mock_new_name" => return some { m with pathName := World.text? a }
  | "_mock_new_parent" => return some { m with pathParent := place }
  | "_mock_sealed" => return some { m with closed := ← p.truth a }
  | "_mock_wraps" => return some { m with wraps := a }
  | "_mock_unsafe" => return some { m with lenient := ← p.truth a }
  | "_mock_methods" => return some { m with listing := a }
  | "_spec_class" => return some { m with spec := if a = .none then none else some a }
  | "_spec_set" => return some { m with strict := ← p.truth a }
  | key =>
    let name := String.ofList (key.toList.drop "_mock_".length)
    return if m.log.any (·.1 = name) then some { m with log := Bindings.insert name a m.log }
      else none

/-- Sets an attribute of a stand-in. -/
def setOnMock (p : Performer) (r : Nat) (m : Mock) (key : String) (a : Value) : Act Unit := do
  let listed := ((← get).listed? m key).getD true
  match key with
  | "return_value" =>
    put r (.mock { m with result := some a })
    discard (attachChild r a none "()")
  | "side_effect" =>
    let effect ← effectOf a
    modifyMock r fun m => { m with effect := effect }
  | key =>
    if (logNames m.awaitable).contains key then
      put r (.mock { m with log := Bindings.insert key a m.log })
    else if (privateNames m.awaitable).contains key then
      discard (attachChild r a (some key) key)
      match ← withPrivate p m key a with
      | some m => put r (.mock m)
      | none => putOwn r key a
    else if m.strict && !listed && ((← get).ownOf? (.object r) key).isNone then
      complain .attribute ("Mock object has no attribute '" ++ key ++ "'")
    else if refusedOperators.contains key then
      complain .attribute
        ("Attempting to set unsupported magic method " ++ Text.quoted key ++ ".")
    else if settableOperators.contains key then
      setOperator r m key a
    else if key = "__class__" then put r (.mock { m with spec := some a })
    else if key = "__dict__" && !((← get).isExactly a "dict") then
      complain .type ("__dict__ must be set to a dictionary, not a '" ++ (← get).typeName a ++ "'")
    else
      if ← attachChild r a (some key) key then
        modifyMock r fun m => { m with children := Bindings.insert key (some a) m.children }
      putOwn r key a
where
  /-- What a stand-in is told to do by call is kept as an iterator, if it can be iterated. -/
  effectOf (v : Value) : Act Value := do
    let w ← get
    let passes := match w.object? v with
      | some (.error _) => true
      | some (.cls name) => isSubclass name "BaseException"
      | _ => false
    if v = .none || passes || w.isCallable v then return v
    match ← Act.attempt (p.iterate v) with
    | .ok it => return it
    | .error e => if ← isKind e "TypeError" then return v else throw e

/-- Takes an attribute away from a stand-in; it does not come back as a child. -/
def deleteOnMock (r : Nat) (m : Mock) (key : String) : Act Unit := do
  let own := (← get).ownOf? (.object r) key
  if settableOperators.contains key && (m.operators.lookup key).isSome || givenOperator? m key then
    modifyMock r fun m => { m with operators := m.operators.filter fun e => e.1 != key }
    if own.isNone then
      modifyMock r fun m => { m with children := Bindings.insert key none m.children }
      return ()
  match own with
  | some _ => dropOwn r key
  | none => if m.children.lookup key == some none then complain .attribute key
  modifyMock r fun m => { m with children := Bindings.insert key none m.children }

end Provision.Script
