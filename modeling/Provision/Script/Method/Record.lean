import Provision.Script.Running

/-!
Methods of the library's own records: tokens, environments, runtimes, service programs,
cancellations, the pretend services of the registration example, and the helpers of scripts.

They are written as functions, so they take any object. A record is given its fields by
`setUpRecord`; a frozen one cannot be changed afterwards.
-/

namespace Provision.Script

/-! ### Fields -/

/-- A new dictionary from a mapping or a list of pairs, and from named values. -/
def dictOf (p : Performer) (args : List Value) (named : Named) : Act Value := do
  if args.length > 1 then
    complain .type ("dict expected at most 1 argument, got " ++ toString args.length)
  let target ← newDictOf .empty
  match target with
  | .object r =>
    args.forM fun v => bindEntriesOf p r v
    (textPairs named).forM fun e => putEntry r e.1 e.2
  | _ => pure ()
  return target

/-- The operations of ducks, by the protocol that they belong to. -/
def duckNames : List (String × List String) :=
  [("sync", syncNames), ("async_", asyncNames)]

/-- Gives a duck its operations: each notes its call and passes it on. -/
def setUpDuck (p : Performer) (self : Nat) (label sync async omitted : Value) : Act Unit := do
  let omitted ← if omitted = .none then pure [] else itemsOf p omitted
  putOwn self "label" label
  duckNames.forM fun e => do
    let target := if e.1 = "sync" then sync else async
    if target != .none then
      e.2.forM fun name => do
        if !omitted.contains (.text name) then
          putOwn self name (← alloc (.relay label target name))

/-- Gives a record its fields. -/
def setUpRecord (p : Performer) (self : Value) (r : Nat) (owner : String)
    (bound : Named) : Act Unit := do
  let given (key : String) : Value := (bound.lookup key).getD .none
  let keep (key : String) : Act Unit := putOwn r key (given key)
  match owner with
  | "Token" => keep "name"; keep "contract"
  | "Done" | "Completed" => keep "value"
  | "SequenceEnvironment" => keep "sequence"
  | "ComposedEnvironment" => keep "environments"
  | "Runtime" =>
    let mapping ← match bound.lookup "defaults" with
      | some mapping => pure mapping
      | none => newDictOf .empty
    putOwn r "defaults" (← (shelf p).assemble (.runtime mapping))
  | "ServiceProgram" =>
    putOwn r "services" (← (workshop p).servicesByName (given "services"))
    keep "factory"
    putOwn r "args" (← (workshop p).argumentsOf (bound.lookup "args"))
    putOwn r "kwargs" (← (workshop p).keywordsOf (bound.lookup "kwargs"))
  | "Cancellation" => resetCancellation p self
  | "MemoryDatabase" => resetDatabase p self
  | "Obj" =>
    keep "label"
    match ← look (given "attrs") with
    | some (.dict entries) =>
      entries.pairs.forM fun e => do putOwn r (← p.str e.1.shown) e.2
    | _ => pure ()
  | "Duck" => setUpDuck p r (given "label") (given "sync") (given "async_") (given "omit")
  | "LookupEnv" => keep "label"; keep "f"
  | "Recording" => keep "env"
  | _ => pure ()

/-! ### Methods by class -/

/-- The methods of environments that are neither lookups nor iterations. -/
def environmentMember? (p : Performer) (owner name : String) (self : Value)
    (values : List Value) : Option (Act Value) :=
  match owner, name, values with
  | "SequenceEnvironment", "consumed", _ => some do
    return .bool ((← itemCount p (← p.read self "sequence")) = 0)
  | "SequenceEnvironment", "consume", _ => some do newGuard p (← consumeFunction) [self] []
  | "SequenceEnvironment", "composed_with", [fallback] => some do
    newInstance "ComposedEnvironment" [("environments", ← newList [fallback, self])]
  | "Mapping", "get", [key, otherwise] => some (itemOr p self key otherwise)
  | "Mapping", "keys", _ => some (alloc (.view .keys false self))
  | "Mapping", "values", _ => some (alloc (.view .values false self))
  | "Mapping", "items", _ => some (alloc (.view .items false self))
  | "Mapping", "__contains__", [key] => some do return .bool (← hasKey p self key)
  | "Mapping", "__getitem__", [key] => some (raise .key [key])
  | "Mapping", "__eq__", [other] => some do
    if !(← get).isMapping other then notImplemented
    else
      let entries (v : Value) : Act Value := do dictOf p [← p.method v "items" [] []] []
      p.compare .eq (← entries self) (← entries other)
  | _, _, _ => none

/-- The methods of runtimes and of service programs. -/
def runMember? (p : Performer) (owner name : String) (self : Value) (values : List Value)
    (rest : CallArgs) : Option (Act Value) :=
  let environment (overrides : Value) : Act Value := p.method self "environment_for" [overrides] []
  match owner, name, values with
  | "Runtime", "environment_for", [overrides] => some do
    environmentFor p (← p.read self "defaults") overrides
  | "Runtime", "run", [program, overrides, cancellation] => some do
    newRun program (← environment overrides) cancellation
  | "Runtime", "run_sync", [program, overrides, cancellation] => some do
    runSync p program (← environment overrides) cancellation
  | "Runtime", "extend", _ => some do
    let defaults ← p.read self "defaults"
    newInstance "Runtime"
      [("defaults", ← (shelf p).assemble (.extend defaults rest.1 (textPairs rest.2)))]
  | "ServiceProgram", "tokens", _ => some do
    let services ← p.read self "services"
    newList <| ← (workshop p).tokensOf services do
      listOf p (← p.method services "values" [] [])
  | "ServiceProgram", "with_args", _ => some do
    let parts ← partsOf p self
    let otherwise : Act (Value × Value) := do
      let args ← addValues p parts.arguments (← newTuple rest.1)
      return (args, ← dictOf p [parts.keywords] rest.2)
    (workshop p).withArgs parts rest.1 (textPairs rest.2) otherwise fun made => do
      p.call (← p.read self "__class__") []
        [("services", made.services), ("factory", made.factory), ("args", made.arguments),
          ("kwargs", made.keywords)]
  | "ServiceProgram", "run", [implementations, cancellation] => some <|
    newSuspended "ServiceProgram.run" .coroutine (.serve self implementations cancellation)
  | "ServiceProgram", "_start", [implementations] => some (startService p self implementations)
  | "ServiceProgram", "run_sync", [implementations, cancellation] => some <|
    serveSync p self implementations cancellation
  | _, _, _ => none

/-- The methods of recorded calls. -/
def callMember? (p : Performer) (name : String) (self : Value) (items : List Value)
    (rest : CallArgs) : Option (Act Value) :=
  match name with
  | "__call__" => some do
    let args ← newTuple rest.1
    let named ← newNamedDict rest.2
    let owned (name parent : Value) : Named :=
      [("_mock_name", name), ("_mock_parent", parent), ("_mock_from_kall", .bool true)]
    match ← p.read self "_mock_name" with
    | .text n => allocWith (.call [.text n, args, named]) (owned (.text (n ++ "()")) self)
    | _ => allocWith (.call [.text "", args, named]) (owned (.text "()") .none)
  | "_get_call_arguments" => some do
    let (_, args, named) := callParts items
    newTuple [args, named]
  | "call_list" => some do
    let calls ← path (← get) depthLimit self
    alloc (.callList calls.reverse.toArray)
  | _ => none
where
  /-- The calls that lead to a recorded call, the last one first, in at most so many steps. -/
  path (w : World) : Nat → Value → Act (List Value)
    | 0, _ => return []
    | _, .none => return []
    | depth + 1, v => do
      let above := (w.ownOf? v "_mock_parent").getD .none
      let rest ← path w depth above
      return if (w.ownOf? v "_mock_from_kall") == some (.bool true) then v :: rest else rest

/-- A method of a record, by the values of its parameters; operators are not among them. -/
def recordMember (p : Performer) (owner name : String) (self : Value) (values : List Value)
    (rest : CallArgs) : Act Value := do
  match environmentMember? p owner name self values, runMember? p owner name self values rest with
  | some action, _ => action
  | none, some action => action
  | none, none =>
    match owner, name, values with
    | "Token", "__iter__", _ => newSuspended "Token.__iter__" .generator (.request self false)
    | "Token", "make", [v] => return (⟨self, .none⟩ : Token Value Value).make v
    | "Token", "provide", [v] =>
      let key ← dictKey p (← p.read self "name")
      newDictOf ((⟨key, .none⟩ : Token DictKey Value).provide v)
    | _, "__setattr__", _ | _, "__delattr__", _ => raise .frozenInstance []
    | "SubToken", "throw", [e] => raiseValue p e
    | "SubToken", "close", _ => return .none
    | "SubToken", _, _ => raise .stopIteration [.text "sent"]
    | "Cancellation", "cancel", [reason] => cancel p self reason; return .none
    | "Cancellation", "error", _ => newCancelled p (← p.read self "reason")
    | "Cancellation", "raise_if_cancelled", _ =>
      if ← p.truth (← p.read self "cancelled") then
        raiseValue p (← p.method self "error" [] [])
      else return .none
    | "PrintLogger", "info", [message] => printLine p message; return .none
    | "MemoryDatabase", "query", [sql] =>
      newSuspended "MemoryDatabase.query" .coroutine (.query self sql rest.1)
    | "MemoryDatabase", "count", [table] =>
      return .int (Int.ofNat (← itemCount p (← p.item (← p.read self "tables") table)))
    | _, _, _ => generalMember p name self values

end Provision.Script
