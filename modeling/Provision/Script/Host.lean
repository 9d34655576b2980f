import Provision.Script.Container

/-!
The host of drivers: answering the requests of talks by the objects of a script.

`answer` answers every request that can be answered at once. Resuming and closing through the
asynchronous protocol may have to wait, which is what cooperative runs are for. A blocking run goes
through in one go (`runBlocking`).
-/

namespace Provision.Script

/-! ### Programs -/

/-- The value that throwing a fault throws. -/
def Fault.thrown : Fault → Act Value
  | .improper v => return v
  | e => do
    match ← e.object with
    | some r => return .object r
    | none => throw e

/-- The signal that a call of a synchronous protocol amounts to. -/
def syncSignal (p : Performer) (program : Value) (how : Resumption Value Fault) :
    Act (Signal Value Fault) := do
  let result ← Act.attempt <| do
    match program, ← look program, how with
    | .object r, some (.suspended s), .send v =>
      if s.style = .generator then sendTo p r v
      else return .yields (← p.method program "send" [v] [])
    | .object r, some (.suspended s), .throw e =>
      if s.style = .generator then throwTo p r e true
      else return .yields (← p.method program "throw" [← e.thrown] [])
    | _, _, .send v => return .yields (← p.method program "send" [v] [])
    | _, _, .throw e => return .yields (← p.method program "throw" [← e.thrown] [])
  match result with
  | .ok (.returns v) => return .ends v
  | .ok reply => return .yields reply.value
  | .error .spent => throw .spent
  | .error e =>
    if ErrorLike.nature e = .ended then return .ends (endValue (← get) e)
    else return .raises (← e.settled)

/-- The error that an action comes to, if any. -/
def problemOf {α : Type} (x : Act α) : Act (Option Fault) := do
  match ← Act.attempt x with
  | .ok _ => return none
  | .error .spent => throw .spent
  | .error e => return some (← e.settled)

/-- The value or the error that an action comes to. -/
def resultOf {α : Type} (x : Act α) : Act (Except Fault α) := do
  match ← Act.attempt x with
  | .ok a => return .ok a
  | .error .spent => throw .spent
  | .error e => return .error (← e.settled)

/-- Closes a program through the synchronous protocol. -/
def closeProgram (p : Performer) (program : Value) : Act Unit := do
  match program, ← look program with
  | .object r, some (.suspended s) =>
    if s.style = .generator then shutDown p r else discard (p.method program "close" [] [])
  | _, _ => discard (p.method program "close" [] [])

/-! ### Cancellations -/

/-- What a cancellation says at a suspension: anything with the attributes of one will do. -/
def dueOf (p : Performer) (cancellation : Value) : Act (Due Value Fault) := do
  if cancellation = .none then return .goOn
  let said ← resultOf do
    if !(← p.truth (← p.read cancellation "cancelled")) then return none
    else return some (← p.method cancellation "error" [] [])
  match said with
  | .ok none => return .goOn
  | .ok (some .none) => return .stop (.send .none)
  | .ok (some v) => return .stop (.throw (← thrownFault p v))
  | .error e => return .failed e

/-! ### Log records -/

/-- The words for a record: its level, its logger and its text. -/
def entryOf (p : Performer) (r : Report Value) : Act LogEntry := do
  let entry (level logger before : String) (v : Value) (after : String) : Act LogEntry := do
    return ⟨level, logger, Text.withoutAddresses (before ++ (← p.repr v) ++ after)⟩
  match r with
  | .finished m _ .lifted =>
    return ⟨"DEBUG", logger m, "Program <async_generator object to_async> finished"⟩
  | .finished m v (.direct _) => entry "DEBUG" (logger m) "Program " v " finished"
  | .nested m v => entry "DEBUG" (logger m) "Running nested program " v ""
  | .resolved n => entry "DEBUG" "effectwire._base" "Resolved service " n ""
  | .passing v => entry "DEBUG" "effectwire._base" "Passing " v " back through"
  | .notProvided n => entry "WARNING" "effectwire._environment" "Service " n " not provided"
  | .stopRequested r => entry "INFO" "effectwire._cancel" "Cancellation requested: " r ""
where
  /-- The logger of a manner of driving. -/
  logger : Manner → String
    | .blocking => "effectwire._sync"
    | .cooperative => "effectwire._base"

/-- The value that a record is about; a lifted program is not shown itself. -/
def subjectOf : Report Value → Option Value
  | .finished _ p form => if form = .lifted then none else some p
  | .nested _ p => some p
  | .resolved n => some n
  | .passing v => some v
  | .notProvided n => some n
  | .stopRequested r => some r

/-- Puts a record into the log. A mapping that a record is about is judged before it is written; an
empty one is then not written as such. -/
def reportAll (p : Performer) (r : Report Value) : Act Unit := do
  match subjectOf r with
  | some v => if (← get).isMapping v then discard (p.truth v)
  | none => pure ()
  let entry ← entryOf p r
  modify fun w => { w with records := w.records.push entry }

/-! ### Complaints -/

/-- The error of a complaint. A service that is not there is complained about in place of the error
that said so. -/
def complaintError (p : Performer) (c : Complaint Value) : Act Nat := do
  let r ← match c with
    | .refused v .notProgram => do resolution v ((← p.repr v) ++ " is not a program")
    | .refused v .notSynchronous => do
      makeError .notSynchronous [.text ("Running " ++ (← p.repr v) ++ " was not synchronous!")]
    | .unresolvable v .coroutine => do
      resolution v ("Can't resolve " ++ (← p.repr v) ++
        ": a coroutine was yielded; it needs to be awaited instead")
    | .unresolvable v .uncalled => do
      resolution v ("Can't resolve " ++ (← p.repr v) ++
        ": a program function was yielded instead of being called")
    | .notProvided n => makeError .serviceNotProvided [n]
  chainContext r
  leaveTrace r
  match c with
  | .notProvided _ => modifyError r fun e => { e with suppress := true }
  | _ => pure ()
  return r
where
  /-- An error that carries the payload it is about. -/
  resolution (payload : Value) (text : String) : Act Nat :=
    makeErrorWith .resolutionType [.text text] [("payload", payload)]

/-! ### Traits -/

/-- A callable as seen by whoever has to recognise program functions. -/
def callable? (w : World) : Nat → Value → Option Callable
  | 0, _ => none
  | depth + 1, v =>
    let marked := w.ownOf? v markName == some (.bool true)
    match w.object? v with
    | some (.function code _ _) =>
      let makes := match code.style with
        | .generator | .asyncGenerator => Making.program
        | _ => Making.other
      some (.function makes marked)
    | some (.bound _ f) =>
      if w.isExactly v "method" then callable? w depth f else some (.function .other false)
    | some (.supplied inner ..) =>
      let f := (callable? w depth inner).getD (.function .other false)
      some (.supplied f marked)
    | some (.declared inner _) =>
      let f := (callable? w depth inner).getD (.function .other false)
      some (.declared f marked)
    | some (.member owner name) =>
      let makes := if name = "__iter__" &&
          ["Token", "ComposedEnvironment", "KeysView", "ValuesView", "ItemsView"].contains owner
        then Making.program else Making.other
      some (.function makes marked)
    | some (.relay ..) | some (.prepended ..) => some (.function .other marked)
    | _ => none
where
  /-- The attribute that marks a function as declared to make programs. -/
  markName : String := "effectwire_program"

/-- What is behind a method, in at most so many steps. -/
def behindMethod (w : World) : Nat → Value → Value
  | 0, v => v
  | depth + 1, v =>
    match w.object? v with
    | some (.bound _ f) => if w.isExactly v "method" then behindMethod w depth f else v
    | _ => v

/-- What is behind a function with some arguments supplied, in at most so many steps. -/
def behindSupplied (w : World) : Nat → Value → Value
  | 0, v => v
  | depth + 1, v =>
    match w.object? v with
    | some (.supplied inner ..) => behindSupplied w depth inner
    | _ => v

/-- Whether a value passes for a function: by its class, or because it can be called and says of
itself what a function says. -/
def passesForFunction (p : Performer) (v : Value) : Act Bool := do
  let w ← get
  if w.isInstance v "function" then return true
  if !w.isCallable v || (w.asClass? v).isSome then return false
  let name ← readable? p v "__name__"
  let code ← readable? p v "__code__"
  let defaults ← readable? p v "__defaults__"
  let named ← readable? p v "__kwdefaults__"
  let notes := (← readable? p v "__annotations__").getD .none
  let w ← get
  let isNoneOr (a : Option Value) (cls : String) : Bool :=
    a.any fun a => a == .none || w.isInstance a cls
  return code.any (w.isInstance · "code") && name.any (w.isInstance · "str") &&
    isNoneOr defaults "tuple" && isNoneOr named "dict" && isNoneOr (some notes) "dict"

/-- Whether the code of what passes for a function has a mark, which is a power of two. -/
def codeHas (p : Performer) (v : Value) (mark : Nat) : Act Bool := do
  if !(← passesForFunction p v) then return false
  let code ← p.read v "__code__"
  let w ← get
  let marks ←
    if w.isExactly code "code" then pure ((w.ownOf? code "co_flags").getD (.int 0))
    else p.read code "co_flags"
  match World.number? marks with
  | some n => return n / mark % 2 != 0
  | none =>
    match ← overridden? p marks "__and__" [.int mark] with
    | some a => p.truth a
    | none =>
      complain .type ("unsupported operand type(s) for &: '" ++ (← get).typeName marks ++
        "' and 'int'")

/-- Whether a value is a program function that was handed over without being called. -/
def isUncalled (p : Performer) (v : Value) : Act Bool := do
  let w ← get
  if (callable? w depthLimit v).any Callable.uncalled then return true
  let f := behindSupplied w depthLimit (behindMethod w depthLimit v)
  if (callable? w depthLimit f).isNone then
    if ← [32, 512].anyM (codeHas p f) then return true
  return (← readable? p v "effectwire_program") == some (.bool true)

/-- The names of the asynchronous protocol. -/
def asyncNames : List String := ["asend", "athrow", "aclose", "__anext__"]

/-- The names of the synchronous protocol. -/
def syncNames : List String := ["send", "throw", "close", "__next__"]

/-- Whether a value can be driven through the asynchronous protocol. -/
def isAsyncProgram (p : Performer) (v : Value) : Act Bool := do
  if (← get).isInstance v "async_generator" then return true else exposesAll p v asyncNames

/-- Whether a value can be driven through the synchronous protocol. -/
def isSyncProgram (p : Performer) (v : Value) : Act Bool := do
  if (← get).isInstance v "generator" then return true else exposesAll p v syncNames

/-- What a value shows of itself to a driver. It is looked at no further than its role needs. -/
def traitsOf (p : Performer) (v : Value) (role : Role) : Act Traits := do
  let plain : Traits :=
    { token := false, async := false, sync := false, completion := false, coroutine := false
      uncalled := false }
  if role = .payload && (← get).isInstance v "Token" then return { plain with token := true }
  if ← isAsyncProgram p v then return { plain with async := true }
  if ← isSyncProgram p v then return { plain with sync := true }
  let w ← get
  if role = .program then return plain
  else if w.isExactly v "Done" then return { plain with completion := true }
  else if w.isInstance v "coroutine" then return { plain with coroutine := true }
  else return { plain with uncalled := ← isUncalled p v }

/-! ### Service programs -/

/-- Values named by the keys of a mapping, which have to be texts. -/
def namedOf (p : Performer) (v : Value) : Act Named := do
  let entries ← match ← look v with
    | some (.dict entries) => pure entries.pairs
    | _ =>
      if ← exposes p v "keys" then entriesOf p v
      else complain .type "argument after ** must be a mapping"
  entries.mapM fun
    | (⟨_, .text s, _⟩, a) => pure (s, a)
    | _ => complain .type "keywords must be strings"

/-- The objects of scripts as a place where the parts of service programs are kept. -/
def workshop (p : Performer) : Workshop Act Value Value DictKey String where
  isMapping v := return (← get).isMapping v
  entries v := entriesOf p v
  named v := mapOf p v fun t => do return (← dictKey p (← p.read t "name"), t)
  items v := listOf p v
  keywords v := namedOf p v
  dictionary? v := return match ← look v with
    | some (.dict entries) => some entries
    | _ => none
  tuple? v := return match ← look v with
    | some (.tuple items) => some items
    | _ => none
  addDictionary b := newDictOf b
  addPairs pairs := newDictFrom p pairs
  addTuple items := newTuple items

/-- The parts of a service program, which are its fields. -/
def partsOf (p : Performer) (self : Value) : Act (Parts Value Value) :=
  return ⟨← p.read self "services", ← p.read self "factory", ← p.read self "args",
    ← p.read self "kwargs"⟩

/-- Calls a factory with the services as attributes of one object, and with further arguments. -/
def factoryCall (p : Performer) (factory services args named : Value) : Act Value :=
  (workshop p).build (newInstance "SimpleNamespace") p.call factory services args named

/-! ### Answers -/

/-- Answers a request at once. A resumption through the asynchronous protocol has no answer of this
kind. -/
def answer (p : Performer) (environment cancellation : Value) :
    (r : Request Value Fault) → Act r.Answer
  | .inspect v role => resultOf (traitsOf p v role)
  | .barred =>
    if cancellation = .none then return none
    else problemOf (p.method cancellation "raise_if_cancelled" [] [])
  | .due => dueOf p cancellation
  | .resume .sync program how => syncSignal p program how
  | .resume .async _ _ => return .raises .spent
  | .close .sync program => problemOf (closeProgram p program)
  | .close .async _ => return some .spent
  | .find name => findIn p environment name
  | .nameOf token => resultOf (p.read token "name")
  | .valueOf completion => resultOf (p.read completion "value")
  | .report r => problemOf (reportAll p r)
  | .complain c => return .raised .ordinary (← complaintError p c)
  | .discard v => problemOf (p.method v "close" [] [])
  | .build factory services args named => resultOf (factoryCall p factory services args named)
  | .handle e => do
    let r ← e.object
    modify fun w => { w with handled := r.getD 0 :: w.handled }
  | .handled => modify fun w => { w with handled := w.handled.drop 1 }

/-- Goes through a talk with an environment. -/
def converseIn {α : Type} (p : Performer) (environment : Value) (talk : Talk Value Fault α) :
    Act α :=
  talk.answeredBy (answer p environment .none)

/-- Goes through a talk that needs no environment. -/
def converse {α : Type} (p : Performer) (talk : Talk Value Fault α) : Act α :=
  converseIn p .none talk

/-! ### Blocking runs -/

/-- Goes through a run in one go. -/
def runBlocking (p : Performer) (environment cancellation : Value) (run : Run Value Fault) :
    Act Value := do
  match ← run.conduct .blocking (answer p environment cancellation) stepLimit with
  | some result => Act.ofResult result
  | none => throw .spent

/-- The environment and the blueprint for one run of a service program. -/
def prepareService (p : Performer) (service implementations : Value) :
    Act (Value × Blueprint Value) := do
  let environment ←
    if (← get).isMapping implementations then newEnvironment p [implementations] []
    else pure implementations
  let services ← p.read service "services"
  let tokens ← p.method service "tokens" [] []
  let declared ← itemsOf p tokens
  let parts : Parts Value Value := ⟨services, ← p.read service "factory", ← p.read service "args",
    ← p.read service "kwargs"⟩
  return (environment, parts.blueprint id declared)

end Provision.Script
