import Provision.Script.Signature

/-!
Stand-ins that are made after something: the names, the class and the parameters they have from it.

A stand-in made after a contract passes for an object of the contract (`Mock.madeAfter`). It has the
names of the contract and no others; those under which the contract has a coroutine function are
awaited when they are called, and the arguments of an expected call are matched to the parameters
of the contract.
-/

namespace Provision.Script

/-! ### What a contract has -/

/-- The names that the objects of a class have because of it. -/
def World.classNames (w : World) (c : ClassRef) : List String :=
  match c with
  | .made r =>
    (w.own (.object r)).map (·.1) ++ ["__module__", "__dict__", "__weakref__"] ++
      memberNames "object"
  | .known name => (lineage name).flatMap fun c =>
    let set := ((w.shared.lookup ("class " ++ c)).map fun v => (w.own v).map (·.1)).getD []
    set ++ ((classInfo? c).map ClassInfo.names).getD []

/-- The names that can be asked of a value, as far as they are known beforehand. -/
def World.namesOf (w : World) (v : Value) : List String :=
  let names := match w.asClass? v with
    | some c => w.classNames c
    | none =>
      let cls := w.classOf v
      (if World.hasOwn cls then (w.own v).map (·.1) else []) ++ w.classNames cls
  ("__doc__" :: names).eraseDups

/-- Whether calling a value gives a coroutine, as far as its function tells. -/
def World.makesCoroutine (w : World) : Nat → Value → Bool
  | 0, _ => false
  | depth + 1, v =>
    match w.object? v with
    | some (.function code _ _) => code.style = .coroutine
    | some (.bound _ f) => w.isExactly v "method" && w.makesCoroutine depth f
    | some (.supplied inner ..) => w.makesCoroutine depth inner
    | some (.member owner name) =>
      [("ServiceProgram", "run"), ("MemoryDatabase", "query")].contains (owner, name)
    | some (.mock m) => m.awaitable
    | _ => false

/-- Whether a value is awaited, or gives what is awaited when it is called. -/
def World.isAwaited (w : World) (v : Value) : Bool :=
  w.makesCoroutine depthLimit v || w.isAwaitable v

/-- The names under which a value has a coroutine function. -/
def coroutineNames (p : Performer) (v : Value) : Act (List String) := do
  let w ← get
  let c := (w.asClass? v).getD (w.classOf v)
  let readable := (w.namesOf v).filter fun key =>
    match w.inherited? c key with
    | some found => !found.comesFirst
    | none => true
  readable.filterM fun key => do
    match ← Act.attempt (p.read v key) with
    | .ok a => return (← get).makesCoroutine depthLimit a
    | .error e => if ← isKind e "AttributeError" then return false else throw e

/-! ### Parameters -/

/-- The parameters that take everything. -/
def Signature.any : Signature := ⟨[], true, true⟩

/-- The parameters without the first one. -/
def Signature.withoutFirst (s : Signature) : Option Signature :=
  match s.params with
  | _ :: rest => some { s with params := rest }
  | [] => if s.takesRest then some s else none

/-- Parameters as far as arguments can be matched to them. -/
def Parameters.signature (q : Parameters) : Signature :=
  ⟨q.params.map fun e => (e.1, e.2.isSome), q.takesRest, q.takesNamed⟩

/-- The parameters that the calls of a stand-in for a value have to fit, if it can be called. -/
def World.signatureOf? (w : World) : Nat → Value → Option Signature
  | 0, _ => none
  | depth + 1, v =>
    let wrapped := (w.ownOf? v "__wrapped__").map (w.signatureOf? depth)
    match w.asClass? v, w.object? v with
    | some (.made r), _ =>
      match w.ownOf? (.object r) "__init__" with
      | some f => (w.signatureOf? depth f).bind Signature.withoutFirst
      | none => some .any
    | some (.known name), _ =>
      match definingClass? name "__init__" with
      | some (owner, .written) => (writtenParameters owner "__init__").signature.withoutFirst
      | _ => some .any
    | none, some (.function code defaults _) =>
      let params := code.params.map fun q => (q.1, (defaults.lookup q.1).isSome)
      wrapped.getD (some ⟨params, code.rest.isSome, false⟩)
    | none, some (.declared ..) => wrapped.getD (some .any)
    | none, some (.bound _ f) =>
      if w.isExactly v "method" then (w.signatureOf? depth f).bind Signature.withoutFirst
      else some .any
    | none, some (.member owner name) =>
      if World.memberClass owner name = "function" then
        some (writtenParameters owner name).signature
      else if w.isCallable v then some .any
      else none
    | none, some (.instance _) =>
      (w.override? v "__call__").bind fun f =>
        (w.signatureOf? depth f).bind Signature.withoutFirst
    | none, _ => if w.isCallable v then some .any else none

/-! ### Making -/

/-- A stand-in with the names of what it is made after. -/
def Mock.madeAfter (p : Performer) (m : Mock) (contract : Value) (strict : Bool) : Act Mock := do
  let w ← get
  let listed (items : List Value) : Mock :=
    { m with listing := contract, names := some (items.filterMap World.text?), strict := strict }
  match contract, w.object? contract with
  | .none, _ => return { m with strict := strict }
  | _, some (.mock _) =>
    complain .invalidSpec
      ("Cannot spec a Mock object. [object=" ++ (← p.repr contract) ++ "]")
  | _, some (.list items) => return listed items.toList
  | _, some (.tuple items) => return listed items
  | _, _ =>
    let spec ← match w.asClass? contract with
      | some _ => pure contract
      | none => classValue (w.classOf contract)
    let names := (w.namesOf contract).mergeSort fun a b => !(b < a)
    return { m with
      spec := some spec
      listing := ← newList (names.map .text)
      names := some names
      strict := strict
      asyncNames := ← coroutineNames p contract
      signature := w.signatureOf? depthLimit contract }

/-- A stand-in for what a contract describes; a list of names is a contract without a class. -/
def newMock (p : Performer) (contract : Value) : Act Value := do
  let awaitable := contract != .none && (← get).isAwaited contract
  newStandIn (← { Mock.plain with awaitable := awaitable }.madeAfter p contract false)

end Provision.Script
