import Provision.Script.Library

/-!
Evaluating expressions, and calling.

Arguments are evaluated before the function or the object that they are for. A name stands for the
local variable if one was assigned, and otherwise for the variable of the case. Calling a function
of the script runs it at once if it is plain, and otherwise only makes an object that can be
resumed (`callValue`).
-/

namespace Provision.Script

/-- The value of a variable. -/
def readVariable (locals : List (String × Value)) (name : String) : Act Value := do
  match locals.lookup name with
  | some v => return v
  | none =>
    match (← get).bound.lookup name with
    | some v => return v
    | none => raise .unboundName [.text ("name '" ++ name ++ "' is not defined")]

/-- The function of a name. -/
def readFunction (name : String) : Act Value := do
  match (← get).functions.lookup name with
  | some r => return .object r
  | none => raise .unboundName [.text ("name '" ++ name ++ "' is not defined")]

mutual

/-- The value of an expression. -/
def evaluate (p : Performer) (locals : List (String × Value)) : Expr → Act Value
  | .none => return .none
  | .bool b => return .bool b
  | .int i => return .int i
  | .text s => return .text s
  | .list items => do newList (← evaluateAll p locals items)
  | .tuple items => do newTuple (← evaluateAll p locals items)
  | .dict entries => do newDict p (← evaluatePairs p locals entries)
  | .var name => readVariable locals name
  | .token name => do make p "Token" [← evaluate p locals name, .none]
  | .completion v => do make p "Done" [← evaluate p locals v]
  | .function name => readFunction name
  | .start name args named => do
    let args ← evaluateAll p locals args
    let named ← evaluateNamed p locals named
    p.call (← readFunction name) args named
  | .attribute object name => do p.read (← evaluate p locals object) name
  | .method object name args named => do
    let args ← evaluateAll p locals args
    let named ← evaluateNamed p locals named
    p.method (← evaluate p locals object) name args named
  | .library name args named => do
    let args ← evaluateAll p locals args
    let named ← evaluateNamed p locals named
    callLibrary p name args named
  | .apply callee args named => do
    let args ← evaluateAll p locals args
    let named ← evaluateNamed p locals named
    p.call (← evaluate p locals callee) args named

/-- The values of some expressions, from left to right. -/
def evaluateAll (p : Performer) (locals : List (String × Value)) : List Expr → Act (List Value)
  | [] => return []
  | e :: rest => do
    let v ← evaluate p locals e
    return v :: (← evaluateAll p locals rest)

/-- The values of some named expressions. -/
def evaluateNamed (p : Performer) (locals : List (String × Value)) :
    List (String × Expr) → Act Named
  | [] => return []
  | (name, e) :: rest => do
    let v ← evaluate p locals e
    return (name, v) :: (← evaluateNamed p locals rest)

/-- The values of the entries of a dictionary. -/
def evaluatePairs (p : Performer) (locals : List (String × Value)) :
    List (Expr × Expr) → Act (List (Value × Value))
  | [] => return []
  | (k, e) :: rest => do
    let k ← evaluate p locals k
    let v ← evaluate p locals e
    return (k, v) :: (← evaluatePairs p locals rest)

end

/-- The local variables that a call starts with; what was not given takes its default. -/
def bindLocals (f : Function) (defaults : Named) (name : String) (args : List Value)
    (named : Named) : Act (List (String × Value)) := do
  let params := f.params.map fun q => (q.1, defaults.lookup q.1)
  match matchArguments params f.rest.isSome false args named with
  | .error m => complain .type (m.message name)
  | .ok given =>
    let rest ← match f.rest with
      | some name => do pure [(name, ← newTuple given.rest)]
      | none => pure []
    return given.bound ++ (defaults.filter fun d => (given.bound.lookup d.1).isNone) ++ rest

/-- Calls a function of the script. -/
def callFunction (p : Performer) (f : Function) (defaults : Named) (naming : Naming)
    (args : List Value) (named : Named) : Act Value := do
  let locals ← bindLocals f defaults naming.qualified args named
  let frame : Frame := ⟨f.style, locals, [.block f.body], .start⟩
  let made ← newSuspendedAs naming.qualified naming.name f.style (.script frame)
  match f.style, made with
  | .plain, .object r => return (← p (.resume r (.send .none))).value
  | _, _ => return made

/-- Calls a function that is declared to make programs. -/
def callDeclared (p : Performer) (inner : Value) (args : List Value) (named : Named) :
    Act Value := do
  let made ← p.call inner args named
  if (← traitsOf p made .program).isProgram then return made
  else
    complain .type ((← p.repr inner) ++ " is not a generator function. It returned " ++
      (← p.repr made) ++ ".")

/-- The error for a value that cannot be called. -/
def notCallable {α : Type} (f : Value) : Act α := do
  complain .type ("'" ++ (← get).typeName f ++ "' object is not callable")

/-- Calls a value. -/
def callValue (p : Performer) (f : Value) (args : List Value) (named : Named) : Act Value := do
  let w ← get
  match w.asClass? f, f, w.object? f with
  | some c, _, _ => callClass p f c args named
  | none, _, some (.function code defaults naming) =>
    callFunction p code defaults naming args named
  | none, _, some (.declared inner _) => callDeclared p inner args named
  | none, _, some (.relay label target method) =>
    noteAll p [.text "duck", label, .text method]
    p.method target method args named
  | none, _, some (.prepended self inner _) => p.call inner (self :: args) named
  | none, _, some (.supplied inner first firstNamed) =>
    p.call inner (first ++ args)
      (named.foldl (fun entries e => Bindings.insert e.1 e.2 entries) firstNamed)
  | none, _, some (.bound self method) =>
    match w.object? method with
    | some (.member owner name) => callMember p true owner name (self :: args) named
    | _ => p.call method (self :: args) named
  | none, _, some (.member owner name) =>
    if w.isCallable f then callMember p false owner name args named else notCallable f
  | none, .object r, some (.mock _) => callMock p r (args, named)
  | none, _, some (.call items) =>
    match callMember? p "__call__" f items (args, named) with
    | some action => action
    | none => notCallable f
  | none, _, some (.instance (.made _)) =>
    match w.override? f "__call__" with
    | some g => if bindsToObject w g then p.call g (f :: args) named else p.call g args named
    | none => notCallable f
  | none, _, _ => notCallable f

end Provision.Script
