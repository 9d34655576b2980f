import Provision.Script.Method

/-!
The library of scripts: the functions that are called by name.

`callable` gives the parameters of a function and what it does with its arguments, one value for
each parameter. Functions that take any number of arguments, or that tell an argument left out from
one that was given, are in `variadic`; the classes of the library are called like any other class.
`callLibrary` looks a name up in all of them.
-/

namespace Provision.Script

/-! ### Words -/

/-- The word for a stage of a suspended object. -/
def stageWord (s : Suspended) : String :=
  if s.busy then "running"
  else match s.stage with
    | .created => "created"
    | .suspended => "suspended"
    | .running => "running"
    | .closed => "closed"

/-- The word for the way a payload is read. -/
def kindWord : Kind → String
  | .service => "service-request"
  | .nested => "nested-program"
  | .completion => "completion"
  | .passthrough => "passthrough"

/-! ### The library's own functions -/

/-- Reads a payload, or raises the error that a mistake becomes. -/
def classifyValue (p : Performer) (v : Value) : Act Value := do
  return .text (kindWord (← Act.ofResult (← converse p (classify v))))

/-- A program lifted to the asynchronous protocol. -/
def newLifted (program : Value) : Act Value :=
  newSuspended "to_async" .asyncGenerator (.lifted program .unstarted)

/-- A program as something that can be driven asynchronously. -/
def asAsync (p : Performer) (program : Value) : Act Value := do
  match Manner.cooperative.accept (← traitsOf p program .program) with
  | .ok (.direct _) => return program
  | .ok .lifted => newLifted program
  | .error why => throw (.raised .ordinary (← complaintError p (.refused program why)))

/-- Looks a name up, or raises the error that absence becomes. -/
def lookupIn (p : Performer) (environment name : Value) : Act Value := do
  Act.ofResult (← converseIn p environment (lookup name))

/-- Checks that an environment has the names of some tokens, in order. -/
def requireIn (p : Performer) (environment tokens : Value) : Act Value := do
  forEachOf p tokens fun t => do Act.ofResult (← converseIn p environment (require [t]))
  return environment

/-- Resumes a program once; its end is a value of its own. -/
def stepWith (action : Act Value) : Act Value := do
  match ← Act.attempt action with
  | .ok v => return v
  | .error e =>
    if ErrorLike.nature e = .ended then
      newInstance "Completed" [("value", endValue (← get) e)]
    else throw e

/-- An environment of stand-ins. -/
def mockEnvironment (p : Performer) (tokens : List Value) (named : Named) : Act Value := do
  let pairs ← tokens.mapM fun t => do
    let name ← p.read t "name"
    let standIn ← newMock p (← p.read t "contract")
    return (← dictKey p name, standIn)
  newDictFrom p (pairs ++ textPairs named)

/-- The names that a declared function takes over from the function behind it. -/
def keptNames : List String :=
  ["__module__", "__name__", "__qualname__", "__doc__", "__annotations__"]

/-- Declares a function to make programs: it takes over what the function says of itself, and its
attributes. -/
def declareProgram (p : Performer) (f : Value) : Act Value := do
  let v ← alloc (.declared f ⟨"program_wrapper", "program.<locals>.program_wrapper", .none,
    .text "effectwire._program", none⟩)
  match v with
  | .object r =>
    keptNames.forM fun key => do
      match ← readable? p f key with
      | some a => setAttribute p v key a
      | none => pure ()
    match ← readable? p f "__dict__" with
    | some attributes =>
      forEntriesOf p attributes fun key a => do
        match key.shown with
        | .text name => putOwn r name a
        | _ => pure ()
    | none => pure ()
    putOwn r "__wrapped__" f
    putOwn r "effectwire_program" (.bool true)
  | _ => pure ()
  return v

/-! ### The registration example -/

/-- A program of the example, as a suspended object. -/
def newRoutine (name : String) (style : Style) (r : Routine Value) : Act Value :=
  newSuspended name style (.routine r none none)

/-- The example as a whole: two programs against one environment. -/
def registrationMain (p : Performer) : Act Value := do
  let make (cls : String) : Act Value := do p.call (← classValue (.known cls)) [] []
  let logger ← make "PrintLogger"
  let database ← make "MemoryDatabase"
  let services ← newNamedDict [("Logger", logger), ("Database", database)]
  let run (program : Value) : Act Unit := do
    printLine p (← runAlone p (← newRun program (← newEnvironment p [services] []) .none))
  run (← newRoutine "select_one" .asyncGenerator Registration.selectOne)
  for name in ["alice", "bob"] do
    run (← newRoutine "register_user" .asyncGenerator (Registration.registerUser (.text name)))
  return .none

/-! ### Helpers of scripts -/

/-- The entries of a dictionary, named by the plain texts of its keys. -/
def wordedEntries (p : Performer) (v : Value) : Act (List (String × Value)) := do
  match ← look v with
  | some (.dict entries) => entries.pairs.mapM fun e => do return (← p.str e.1.shown, e.2)
  | _ => return []

/-- The name of an attribute that a function is given, which has to be a text. -/
def attributeKey (v : Value) : Act String := do
  match v with
  | .text s => return s
  | v => complain .type ("attribute name must be string, not '" ++ (← get).typeName v ++ "'")

/-- The value of an attribute, or a value for the case that there is none. -/
def attributeOr (p : Performer) (v key : Value) (otherwise : Option Value) : Act Value := do
  let key ← attributeKey key
  match otherwise with
  | some d => return (← readable? p v key).getD d
  | none => p.read v key

/-- What is told of a suspended object: whether it was started, waits, runs or has ended. -/
def stageOf (p : Performer) (v : Value) : Act Value := do
  match ← look v with
  | some (.suspended s) => return .text (stageWord s)
  | _ => p.read v "gi_frame"

/-- What a function of the library does with its arguments. -/
abbrev Action := List Value → Act Value

/-- A function of one argument. -/
def unary (f : Value → Act Value) : Action := fun args => f (args.head?.getD .none)

/-- A function of two arguments. -/
def binary (f : Value → Value → Act Value) : Action := fun
  | [a, b] => f a b
  | _ => return .none

/-- A function of three arguments. -/
def ternary (f : Value → Value → Value → Act Value) : Action := fun
  | [a, b, c] => f a b c
  | _ => return .none

/-- An object of a class of the library. -/
def make (p : Performer) (cls : String) : Action := fun args => do
  p.call (← classValue (.known cls)) args []

/-- The functions of the library itself. -/
def ownFunction? (p : Performer) : String → Option (List (String × Option Value) × Action)
  | "token" => some ([required "name", optional "contract" .none], make p "Token")
  | "done" => some ([optional "value" .none], make p "Done")
  | "run" =>
    some ([required "program", required "environment", optional "cancellation" .none],
      ternary newRun)
  | "run_sync" =>
    some ([required "program", required "environment", optional "cancellation" .none],
      ternary (runSync p))
  | "program" => some ([required "f"], unary (declareProgram p))
  | "require" => some ([required "environment", required "tokens"], binary (requireIn p))
  | "lookup" => some ([required "environment", required "name"], binary (lookupIn p))
  | "to_async" => some ([required "generator"], unary newLifted)
  | "as_async" => some ([required "program"], unary (asAsync p))
  | "classify" => some ([required "payload"], unary (classifyValue p))
  | "is_program" => some ([required "obj"], unary fun v => do
    return .bool (← traitsOf p v .program).isProgram)
  | "is_async_program" => some ([required "obj"], unary fun v => do
    return .bool (← isAsyncProgram p v))
  | "is_sync_program" => some ([required "obj"], unary fun v => do
    return .bool (← isSyncProgram p v))
  | "run_sequence" =>
    some ([required "seq", required "program", optional "fallback" .none], ternary (runSequence p))
  | "step" => some ([required "program", optional "value" .none], binary fun program v =>
    stepWith do p.method program "send" [v] [])
  | "throw" => some ([required "program", required "exception"], binary fun program e =>
    stepWith do p.method program "throw" [e] [])
  | "select_one" => some ([], fun _ =>
    newRoutine "select_one" .asyncGenerator Registration.selectOne)
  | "register_user" => some ([required "name"], unary fun name =>
    newRoutine "register_user" .asyncGenerator (Registration.registerUser name))
  | "user_count" => some ([], fun _ => newRoutine "user_count" .generator Registration.userCount)
  | "main" => some ([], fun _ => registrationMain p)
  | _ => none

/-- The general functions that scripts may call. -/
def generalFunction? (p : Performer) : String → Option (List (String × Option Value) × Action)
  | "eq" => some ([required "a", required "b"], binary (p.compare .eq))
  | "ne" => some ([required "a", required "b"], binary (p.compare .ne))
  | "lt" => some ([required "a", required "b"], binary (p.compare .lt))
  | "is" => some ([required "a", required "b"], binary fun a b => return .bool (a == b))
  | "not" => some ([required "a"], unary fun v => return .bool !(← p.truth v))
  | "add" => some ([required "a", required "b"], binary (addValues p))
  | "getitem" => some ([required "a", required "b"], binary p.item)
  | "contains" => some ([required "a", required "b"], binary fun a b =>
    return .bool (← holds p a b))
  | "len" => some ([required "obj"], unary fun v => return .int (Int.ofNat (← itemCount p v)))
  | "append" => some ([required "list", required "x"], binary fun items x =>
    p.method items "append" [x] [])
  | "set" => some ([required "container", required "key", required "value"],
    ternary fun container key v => do
      setItem p container key v
      return .none)
  | "setattr" => some ([required "obj", required "name", required "value"],
    ternary fun v key a => do
      setAttribute p v (← attributeKey key) a
      return .none)
  | "hasattr" => some ([required "obj", required "name"], binary fun v key => do
    return .bool (← exposes p v (← attributeKey key)))
  | "repr" => some ([required "obj"], unary fun v => return .text (← reprShown p v))
  | "str" => some ([optional "obj" (.text "")], unary fun v => return .text (← strShown p v))
  | "hashable" => some ([required "obj"], unary fun v => do
    discard (dictKey p v)
    return .bool true)
  | "same_hash" => some ([required "a", required "b"], binary fun a b => do
    return .bool ((← keyOf p a).hash == (← keyOf p b).hash))
  | "isinstance" => some ([required "obj", required "kind"], binary fun v kind => do
    return .bool ((← get).isInstance v (← p.str kind)))
  | _ => none

/-- The functions that make the objects of scripts. -/
def makingFunction? (p : Performer) : String → Option (List (String × Option Value) × Action)
  | "gen_state" => some ([required "g"], unary (stageOf p))
  | "sleep" => some ([], fun _ => newSuspended "sleep" .coroutine (.sleep false))
  | "subtoken" => some ([required "name", optional "contract" .none], make p "SubToken")
  | "subdone" => some ([optional "value" .none], make p "SubDone")
  | "contract" => some ([required "name", required "methods"], binary fun name methods => do
    let entries ← wordedEntries p methods
    newContract (← p.str name) (entries.map fun e => (e.1, e.2 == .text "async")))
  | "obj" => some ([required "label", optional "attrs" .none], make p "Obj")
  | "duck" =>
    some ([required "label", optional "sync" .none, optional "async" .none,
      optional "omit" .none], make p "Duck")
  | "lookup_env" => some ([required "label", required "f"], make p "LookupEnv")
  | "recording" => some ([required "env"], make p "Recording")
  | _ => none

/-- The functions that look at which arguments were given. -/
def variadic? (p : Performer) (name : String) (args : List Value) (named : Named) :
    Option (Act Value) :=
  match name with
  | "environment" => some (newEnvironment p args named)
  | "merge" =>
    if named.isEmpty then some (newEnvironment p args [])
    else some (complain .type "merge() got an unexpected keyword argument")
  | "getattr" => some do
    let given ← givenArguments name
      [required "obj", required "name", optional "default" .none] args named
    attributeOr p ((given.lookup "obj").getD .none) ((given.lookup "name").getD .none)
      (given.lookup "default")
  | "mock_environment" => some (mockEnvironment p args named)
  | "gather" => some (newSuspended "gather" .coroutine (.gather args none))
  | _ => none

/-- The classes that scripts may call by their names. -/
def isLibraryClass (name : String) : Bool :=
  ["Token", "Done", "Completed", "ComposedEnvironment", "SequenceEnvironment", "Runtime",
    "ServiceProgram", "Cancellation", "PrintLogger", "MemoryDatabase", "partial", "list",
    "dict"].contains name || (ErrorKind.ofName? name).isSome

/-- Calls a function of the library. -/
def callLibrary (p : Performer) (name : String) (args : List Value) (named : Named) :
    Act Value := do
  let found := (ownFunction? p name).or ((generalFunction? p name).or (makingFunction? p name))
  match found, variadic? p name args named, isLibraryClass name with
  | some (params, action), _, _ => action (← arguments name params args named)
  | none, some action, _ => action
  | none, none, true => do p.call (← classValue (.known name)) args named
  | none, none, false => raise .unboundName [.text ("name '" ++ name ++ "' is not defined")]

end Provision.Script
