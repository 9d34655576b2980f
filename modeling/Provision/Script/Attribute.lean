import Provision.Script.StandIn.Basic

/-!
Attributes: what can be asked of an object by name, set on it, and taken away from it.

A name is first looked for in the class: a computed value of the class comes before an attribute of
the object, and a method or constant of the class after it (`getAttribute`). What is found in the
class may have to be bound to the object (`bindMember`). A class made by a script may answer every
name by a method of its own. An error for a name that is not there remembers the name and the
object. The operators of a class are not found through names that were set on one object.
-/

namespace Provision.Script

/-! ### What comes from the class -/

/-- What the class of an object has under a name. -/
inductive Inherited where
  | native (owner : String) (kind : MemberKind)
  /-- It was set on a class, or belongs to a class made by a script. -/
  | value (v : Value)

namespace World

/-- What one of some classes has under a name, the first one first. Every class has a
description. -/
def inheritedIn? (w : World) (key : String) (classes : List String) : Option Inherited :=
  classes.findSome? fun c =>
    match (w.shared.lookup ("class " ++ c)).bind fun v => w.ownOf? v key with
    | some v => some (.value v)
    | none =>
      match (classInfo? c).bind (·.kind? key) with
      | some kind => some (.native c kind)
      | none => if key = "__doc__" then some (.native c .constant) else none

/-- What a class has under a name. -/
def inherited? (w : World) (c : ClassRef) (key : String) : Option Inherited :=
  match c with
  | .made r =>
    match w.ownOf? (.object r) key with
    | some v =>
      if w.isExactly v "getset_descriptor" then some (.native "object" .computed)
      else some (.value v)
    | none => w.inheritedIn? key ["object"]
  | .known name => w.inheritedIn? key (lineage name)

/-- Whether objects of a class have attributes of their own. -/
def hasOwn : ClassRef → Bool
  | .made _ => true
  | .known name => (definingClass? name "__dict__").isSome

/-- The function that the class of a value has in the place of an operator, if scripts put one
there. -/
def override? (w : World) (v : Value) (key : String) : Option Value :=
  match w.classOf v with
  | .made r => w.ownOf? (.object r) key
  | .known name =>
    match (lineage name).findSome? fun c =>
      (w.shared.lookup ("class " ++ c)).bind fun cls => w.ownOf? cls key with
    | some v => some v
    | none => none

/-- What a function says of itself. -/
def naming? (w : World) (v : Value) : Option Naming :=
  match w.object? v with
  | some (.function _ _ naming) | some (.declared _ naming) => some naming
  | some (.relay _ _ method) => some ⟨method, method, .none, .text "__main__", none⟩
  | some (.prepended _ _ name) => some ⟨lastPart name, name, .none, .text "unittest.mock", none⟩
  | some (.member owner name) =>
    let home := ((classInfo? owner).map (·.home)).getD ""
    some ⟨name, owner ++ "." ++ name, .none, .text home, none⟩
  | _ => none

end World

/-- Whether a function that is found in a class is bound to the object. -/
def bindsToObject (w : World) (f : Value) : Bool :=
  match w.object? f with
  | some (.function ..) | some (.declared ..) | some (.relay ..) | some (.prepended ..) => true
  | some (.member owner name) =>
    !(["builtin_function_or_method", "property"].contains (World.memberClass owner name))
  | _ => false

/-- A constant of a class. -/
def classConstant (owner key : String) : Act Value :=
  match key with
  | "__module__" => return .text (((classInfo? owner).map (·.home)).getD "")
  | "retryable" => return .bool false
  | "msg" => return .text message
  | "args" => sharedObject (owner ++ " args") (newList [.text message])
  | "__slots__" => sharedObject "no slots" (newTuple [])
  | "__match_args__" =>
    sharedObject (owner ++ " fields") (newTuple (fieldNames.map .text))
  | _ => return .none
where
  /-- What an attribute of a frozen record says that is to be set. -/
  message : String := "can't set attribute"
  /-- The names of the fields of a record. -/
  fieldNames : List String :=
    match owner with
    | "Token" => ["name", "contract"]
    | "Done" | "Completed" => ["value"]
    | "SequenceEnvironment" => ["sequence"]
    | "ComposedEnvironment" => ["environments"]
    | "Runtime" => ["defaults"]
    | "ServiceProgram" => ["services", "factory", "args", "kwargs"]
    | "Cancelled" => ["reason"]
    | _ => []

/-- What is found in a class, as seen through an object of it, unless it is computed. -/
def bindMember (self : Value) (cls : ClassRef) (key : String) : Inherited → Act Value
  | .value f => do if bindsToObject (← get) f then alloc (.bound self f) else return f
  | .native owner .constant => classConstant owner key
  | .native owner .free => memberValue owner key
  | .native owner .ofClass => do alloc (.bound (← classValue cls) (← memberValue owner key))
  | .native owner _ => do alloc (.bound self (← memberValue owner key))

/-- Whether what is found in a class comes before the attributes of the object. -/
def Inherited.comesFirst : Inherited → Bool
  | .native _ .computed | .native _ .slot | .native _ .property => true
  | _ => false

/-! ### Computed values -/

/-- What a suspended object waits for. -/
def Body.awaited? : Body → Option Value
  | .script f =>
    match f.point with
    | .await _ a => some a
    | .delegate _ a => some a
    | _ => none
  | .routine _ _ a => a
  | .drive d => d.awaited
  | .waiting a begun => if begun then some a else none
  | _ => none

/-- What can be read from a suspended object. -/
def suspendedField (s : Suspended) (key : String) : Act Value := do
  let code := alloc (.symbol "code" ("<code object " ++ s.plainName ++ ">"))
  match key with
  | "__name__" => return .text s.plainName
  | "__qualname__" => return .text s.name
  | "ag_running" => return .bool s.busy
  | "gi_running" | "cr_running" => return .bool (s.stage = .running)
  | "gi_suspended" | "cr_suspended" | "ag_suspended" => return .bool (s.stage = .suspended)
  | "gi_yieldfrom" | "cr_await" | "ag_await" =>
    return if s.stage = .suspended then (s.body.awaited?).getD .none else .none
  | "gi_frame" | "cr_frame" | "ag_frame" =>
    if s.stage = .closed then return .none
    else alloc (.symbol "frame" "<frame object>")
  | "gi_code" | "cr_code" | "ag_code" => code
  | _ => return .none

/-- The values that the parameters of a function take when they are left out. -/
def defaultsTuple (code : Function) (defaults : List (String × Value)) : Act Value := do
  let given := code.params.filterMap fun q => defaults.lookup q.1
  if given.isEmpty then return .none else newTuple given

/-- The code of a function, with a number for what calling it gives: 32 stands for a program and
512 for an asynchronous one. -/
def codeOf (o : Obj) (name : String) : Act Value :=
  let making : Int := match o with
    | .function code _ _ =>
      match code.style with
      | .generator => 32
      | .asyncGenerator => 512
      | .coroutine => 128
      | .plain => 0
    | _ => 0
  allocWith (.symbol "code" ("<code object " ++ name ++ ">")) [("co_flags", .int making)]

/-- What can be read from a function. -/
def functionField (v : Value) (o : Obj) (naming : Naming) (key : String) : Act Value := do
  match key, o, v with
  | "__name__", _, _ => return .text naming.name
  | "__qualname__", _, _ => return .text naming.qualified
  | "__doc__", _, _ => return naming.doc
  | "__module__", _, _ => return naming.home
  | "__defaults__", .function code defaults _, _ => defaultsTuple code defaults
  | "__code__", o, .object r => sharedObject ("code " ++ toString r) (codeOf o naming.name)
  | "__globals__", _, _ | "__builtins__", _, _ => newDictOf .empty
  | "__annotations__", o, .object r =>
    match naming.annotations with
    | some a => return a
    | none =>
      let a ← newDictOf .empty
      let naming := { naming with annotations := some a }
      match o with
      | .function code defaults _ => put r (.function code defaults naming)
      | .declared inner _ => put r (.declared inner naming)
      | _ => pure ()
      return a
  | _, _, _ => return .none

/-- A value that is kept in an error, or its absence. -/
def errorField (e : ErrorParts) (key : String) : Act Value := do
  match key with
  | "args" => return e.args
  | "__cause__" => return e.cause
  | "__context__" => return e.context
  | "__suppress_context__" => return .bool e.suppress
  | "__traceback__" => return e.trace
  | "characters_written" =>
    match e.slots.lookup key with
    | some v => return v
    | none => complain .attribute key
  | key => return (e.slots.lookup key).getD .none

/-- The parts of a recorded call: its name, its positional and its named arguments. -/
def callParts (items : List Value) : Value × Value × Value :=
  match items with
  | [args, named] => (.text "", args, named)
  | [name, args, named] => (name, args, named)
  | _ => (.text "", .none, .none)

/-- What is computed for an object under a name of its class. -/
def computed (v : Value) (owner key : String) : Act Value := do
  let w ← get
  match key, v with
  | "__class__", _ => classValue (w.classOf v)
  | "__weakref__", _ => return .none
  | "__dict__", .object r =>
    match w.object? v with
    | some (.mock m) =>
      let kept ← (privateNames m.awaitable).mapM fun key => return (key, ← privateValue m key)
      let (before, after) := kept.span (·.1 != "_mock_unsafe")
      let (calls, others) := (w.own v).partition (·.1 = "method_calls")
      newNamedDict (before ++ calls ++ after ++ others)
    | _ => ownDictionary r
  | "real", .int i | "numerator", .int i => return .int i
  | "real", .bool b | "numerator", .bool b => return .int (if b then 1 else 0)
  | "imag", _ => return .int 0
  | "denominator", _ => return .int 1
  | _, _ =>
    match w.object? v with
    | some (.error e) => errorField e key
    | some (.suspended s) => suspendedField s key
    | some (.supplied inner args named) =>
      match key with
      | "func" => return inner
      | "args" => newTuple args
      | _ => newNamedDict named
    | some (.view _ _ mapping) =>
      if owner = "MappingView" then return mapping else alloc (.classView mapping)
    | some (.call items) =>
      let (_, args, named) := callParts items
      return if key = "args" then args else named
    | some (.bound self f) =>
      match key with
      | "__self__" => return self
      | "__func__" => return f
      | "__name__" => return .text (((w.naming? f).map (·.name)).getD "")
      | "__qualname__" => return .text (((w.naming? f).map (·.qualified)).getD "")
      | "__objclass__" =>
        match w.object? f with
        | some (.member owner _) => classValue (.known owner)
        | _ => return .none
      | _ => return .none
    | some (.member cls name) =>
      match key with
      | "__objclass__" => classValue (.known cls)
      | "__name__" => return .text name
      | "__qualname__" => return .text (cls ++ "." ++ name)
      | "__dict__" => newDictOf .empty
      | "__module__" => classConstant cls "__module__"
      | _ => return .none
    | some (.symbol "slice" _) => return if key = "start" then .int 1 else .none
    | some o =>
      match w.naming? v with
      | some naming => functionField v o naming key
      | none => return .none
    | none => return .none

/-! ### Reading -/

/-- The error for an attribute that is not there. -/
def noAttribute {α : Type} (v : Value) (key : String) : Act α := do
  let w ← get
  complain .attribute <|
    match w.asClass? v with
    | some c => "type object '" ++ w.className c ++ "' has no attribute '" ++ key ++ "'"
    | none => "'" ++ w.typeName v ++ "' object has no attribute '" ++ key ++ "'"

/-- Whether the attributes of a class can be set. -/
def isOpenClass : ClassRef → Bool
  | .made _ => true
  | .known name =>
    match classInfo? name with
    | some c => !(["builtins", "functools", "types"].contains c.home)
    | none => false

/-- What is computed for a class under a name. -/
def classField (v : Value) (c : ClassRef) (key : String) : Act Value := do
  let w ← get
  let ancestors := match c with
    | .known name => (lineage name).drop 1
    | .made _ => ["object"]
  let classes (names : List String) : Act (List Value) :=
    names.mapM fun n => classValue (.known n)
  match key, c with
  | "__name__", _ => return .text (w.className c)
  | "__qualname__", .made r => return (w.ownOf? (.object r) key).getD (.text (w.className c))
  | "__qualname__", _ => return .text (w.className c)
  | "__module__", .known name => classConstant name key
  | "__module__", .made r => return (w.ownOf? (.object r) key).getD (.text "__main__")
  | "__doc__", .known name =>
    match w.ownOf? v key with
    | some doc => return doc
    | none => classConstant name key
  | "__doc__", .made r => return (w.ownOf? (.object r) key).getD .none
  | "__bases__", _ => newTuple (← classes (ancestors.take 1))
  | "__base__", _ =>
    match ancestors with
    | a :: _ => classValue (.known a)
    | [] => return .none
  | "__mro__", _ => newTuple (v :: (← classes ancestors))
  | "__dict__", _ => alloc (.classView v)
  | "__annotations__", c => if isOpenClass c then newDictOf .empty else noAttribute v key
  | "__abstractmethods__", _ => complain .attribute key
  | "__class__", _ => classValue (w.classOf v)
  | "__text_signature__", _ => return .none
  | _, _ => return .int 0

/-- What a class has under a name. -/
def classAttribute (v : Value) (c : ClassRef) (key : String) : Act Value := do
  let w ← get
  let own := match c, w.ownOf? v key with
    | .made _, some f => some (Inherited.value f)
    | c, _ => w.inherited? c key
  match w.inherited? (w.classOf v) key, own with
  | some (.native _ .computed), _ | some (.native _ .slot), _ => classField v c key
  | _, some (.value f) => return f
  | _, some (.native owner .constant) => classConstant owner key
  | _, some (.native owner .ofClass) => alloc (.bound v (← memberValue owner key))
  | _, some (.native owner _) => memberValue owner key
  | some found, none => bindMember v (w.classOf v) key found
  | none, none => noAttribute v key

/-- What an object has under a name, without the methods of a class that answer for every name. -/
def plainAttribute (p : Performer) (v : Value) (key : String) : Act Value := do
  let w ← get
  let cls := w.classOf v
  let hidden := cls = .known "_Call" && (definingClass? "tuple" key).any fun d => d.1 = "tuple"
  let found := if hidden then none else w.inherited? cls key
  match v, w.object? v, w.asClass? v with
  | .object r, some (.mock m), _ =>
    mockAttribute p (bindNative cls) r m key
  | _, _, some c => classAttribute v c key
  | _, o, _ =>
    match found, if World.hasOwn cls then w.ownOf? v key else none with
    | some (.native owner kind), own =>
      if (Inherited.native owner kind).comesFirst then computed v owner key
      else
        match own with
        | some a => return a
        | none => bindMember v cls key (.native owner kind)
    | _, some a => return a
    | some found, none => bindMember v cls key found
    | none, none =>
      match o with
      | some (.bound _ f) =>
        if cls = .known "method" then p.read f key else noAttribute v key
      | some (.call _) => callAttribute v key
      | _ => noAttribute v key
where
  /-- What a stand-in has from a class that is there from the start. -/
  bindNative (cls : ClassRef) (owner : String) (kind : MemberKind) : Act Value :=
    let found := Inherited.native owner kind
    if found.comesFirst then computed v owner key else bindMember v cls key found
  /-- What a recorded call has under any name: a call of a method of what it is a call of. -/
  callAttribute (v : Value) (key : String) : Act Value := do
    let name := ((← get).ownOf? v "_mock_name").getD .none
    let full := match name with
      | .text n => n ++ "." ++ key
      | _ => key
    let args ← newTuple []
    let named ← newNamedDict []
    allocWith (.call [.text full, args, named])
      [("_mock_name", .text full), ("_mock_parent", if name = .none then .none else v),
        ("_mock_from_kall", .bool false)]

/-- Calls the function that a class has in the place of an operator. -/
def callOverride (p : Performer) (self f : Value) (args : List Value) : Act Value := do
  if bindsToObject (← get) f then p.call f (self :: args) [] else p.call f args []

/-- Lets an error for a missing attribute remember the name and the object. -/
def rememberMissing (v : Value) (key : String) (e : Fault) : Act Unit := do
  match e with
  | .raised _ r =>
    match (← get).errorAt? r with
    | some parts =>
      if parts.kind.isA "AttributeError" && (parts.slots.lookup "name").isNone &&
          (parts.slots.lookup "obj").isNone then
        modifyError r fun e =>
          { e with slots := e.slots ++ [("name", .text key), ("obj", v)] }
    | none => pure ()
  | _ => pure ()

/-- The value of an attribute. -/
def getAttribute (p : Performer) (v : Value) (key : String) : Act Value := do
  let w ← get
  let result ← Act.attempt <|
    match w.override? v "__getattribute__" with
    | some f => callOverride p v f [.text key]
    | none => plainAttribute p v key
  match result with
  | .ok a => return a
  | .error e =>
    let e ← match w.override? v "__getattr__", ← isKind e "AttributeError" with
      | some f, true =>
        match ← Act.attempt (callOverride p v f [.text key]) with
        | .ok a => return a
        | .error e => pure e
      | _, _ => pure e
    rememberMissing v key e
    throw e

/-- The value of an attribute, if it is there. -/
def readable? (p : Performer) (v : Value) (key : String) : Act (Option Value) := do
  match ← Act.attempt (p.read v key) with
  | .ok a => return some a
  | .error e => if ← isKind e "AttributeError" then return none else throw e

/-- Whether a value has an attribute. -/
def exposes (p : Performer) (v : Value) (key : String) : Act Bool := do
  return (← readable? p v key).isSome

/-- Whether a value has some attributes; it is not asked for the others once one is missing. -/
def exposesAll (p : Performer) (v : Value) : List String → Act Bool
  | [] => return true
  | key :: rest => do if ← exposes p v key then exposesAll p v rest else return false

/-! ### Setting -/

/-- The error for an attribute that cannot be set. -/
def readOnly {α : Type} (v : Value) (key : String) : Act α := do
  complain .attribute
    ("attribute '" ++ key ++ "' of '" ++ (← get).typeName v ++ "' objects is not writable")

/-- Sets a value that is kept in an error. -/
def setOnError (p : Performer) (r : Nat) (key : String) (a : Value) : Act Unit := do
  let isErrorOrNone ← match a, ← look a with
    | .none, _ => pure true
    | _, some (.error _) => pure true
    | _, _ => pure false
  match key with
  | "args" =>
    let args ← p.tupleOf a
    modifyError r fun e => { e with args := args }
  | "__cause__" =>
    if !isErrorOrNone then
      complain .type "exception cause must be None or derive from BaseException"
    modifyError r fun e => { e with cause := a, suppress := true }
  | "__context__" =>
    if !isErrorOrNone then
      complain .type "exception context must be None or derive from BaseException"
    modifyError r fun e => { e with context := a }
  | "__suppress_context__" =>
    match a with
    | .bool b => modifyError r fun e => { e with suppress := b }
    | _ => complain .type "attribute value type must be bool"
  | "__traceback__" =>
    if a != .none && !(← get).isExactly a "traceback" then
      complain .type "__traceback__ must be a traceback or None"
    modifyError r fun e => { e with trace := a }
  | "characters_written" =>
    match a with
    | .int _ | .bool _ => keep
    | _ =>
      let given := (← get).typeName a
      complain .type ("'" ++ given ++ "' object cannot be interpreted as an integer")
  | _ => keep
where
  /-- Keeps a value in the error. -/
  keep : Act Unit := modifyError r fun e => { e with slots := Bindings.insert key a e.slots }

/-- Sets what a function says of itself. -/
def setOnFunction (r : Nat) (o : Obj) (key : String) (a : Value) : Act Unit := do
  let w ← get
  let rename (f : Naming → Naming) : Act Unit :=
    match o with
    | .function code defaults naming => put r (.function code defaults (f naming))
    | .declared inner naming => put r (.declared inner (f naming))
    | _ => pure ()
  let refuse : Act Unit := complain .type (key ++ " must be set to a string object")
  match key, a with
  | "__name__", .text s => rename fun n => { n with name := s }
  | "__qualname__", .text s => rename fun n => { n with qualified := s }
  | "__name__", _ | "__qualname__", _ => refuse
  | "__doc__", a => rename fun n => { n with doc := a }
  | "__module__", a => rename fun n => { n with home := a }
  | "__annotations__", a =>
    match a, w.object? a with
    | .none, _ => rename fun n => { n with annotations := none }
    | _, some (.dict _) => rename fun n => { n with annotations := some a }
    | _, _ => complain .type "__annotations__ must be set to a dict object"
  | "__defaults__", a =>
    match o, a, w.object? a with
    | .function code _ naming, .none, _ => put r (.function code [] naming)
    | .function code _ naming, _, some (.tuple values) =>
      let names := (code.params.map (·.1)).reverse
      let defaults := (names.zip values.reverse).reverse
      put r (.function code defaults naming)
    | _, .none, _ => pure ()
    | _, _, some (.tuple _) => pure ()
    | _, _, _ => complain .type "__defaults__ must be set to a tuple object"
  | "__kwdefaults__", a =>
    match a, w.object? a with
    | .none, _ | _, some (.dict _) => pure ()
    | _, _ => complain .type "__kwdefaults__ must be set to a dict object"
  | "__code__", _ => complain .type "__code__ must be set to a code object"
  | _, _ => complain .attribute "readonly attribute"

/-- Whether two objects of these classes have the same form, so that one may become the other. -/
def sameForm (a b : ClassRef) : Bool :=
  let plain : ClassRef → Bool
    | .made _ => true
    | .known name =>
      ["Token", "SubToken", "Done", "SubDone", "Completed", "ComposedEnvironment",
        "SequenceEnvironment", "Runtime", "ServiceProgram", "Cancellation", "Obj", "Duck",
        "LookupEnv", "Recording", "PrintLogger", "MemoryDatabase"].contains name
  plain a && plain b

/-- Sets a value that is computed for an object. -/
def setComputed (p : Performer) (v : Value) (key : String) (a : Value) : Act Unit := do
  let w ← get
  match v, w.object? v with
  | .object r, some o =>
    match key, o with
    | "__class__", o =>
      match w.asClass? a, o with
      | some c, .instance old =>
        if sameForm old c then put r (.instance c)
        else complain .type "__class__ assignment: object layout differs"
      | some _, _ =>
        complain .type "__class__ assignment only supported for mutable types or modules"
      | none, _ =>
        complain .type ("__class__ must be set to a class, not '" ++ w.typeName a ++ "' object")
    | "__dict__", _ =>
      match a, w.object? a with
      | .object d, some (.dict _) =>
        modify fun w =>
          { w with store := w.store.modify r fun c => { c with own := .dictionary d } }
      | _, _ =>
        complain .type
          ("__dict__ must be set to a dictionary, not a '" ++ w.typeName a ++ "'")
    | key, .error _ => setOnError p r key a
    | "__name__", .suspended s | "__qualname__", .suspended s =>
      match a with
      | .text name =>
        put r (.suspended (if key = "__name__" then { s with plainName := name }
          else { s with name := name }))
      | _ => complain .type (key ++ " must be set to a string object")
    | key, .function .. | key, .declared .. => setOnFunction r o key a
    | key, _ => readOnly v key
  | _, _ => readOnly v key

/-- Sets an attribute of a class. -/
def setOnClass (v : Value) (c : ClassRef) (key : String) (a : Value) : Act Unit := do
  let w ← get
  match v with
  | .object r =>
    if !isOpenClass c then
      complain .type ("cannot set '" ++ key ++ "' attribute of immutable type '" ++
        w.className c ++ "'")
    match key, c, a with
    | "__name__", .made r, .text name => put r (.contract name)
    | "__name__", _, .text _ => pure ()
    | "__name__", _, _ =>
      complain .type ("can only assign string to " ++ w.className c ++ ".__name__, not '" ++
        w.typeName a ++ "'")
    | "__dict__", _, _ | "__mro__", _, _ | "__base__", _, _ => complain .attribute key
    | _, _, _ => putOwn r key a
  | _ => noAttribute v key

/-- Whether a record refuses to be changed. -/
def isFrozen : ClassRef → Bool
  | .known name => ["Token", "SubToken", "Runtime", "ServiceProgram"].contains name
  | .made _ => false

/-- Sets an attribute as any object does. -/
def setPlain (p : Performer) (v : Value) (key : String) (a : Value) : Act Unit := do
  let w ← get
  let cls := w.classOf v
  match w.inherited? cls key, v with
  | some (.native _ .computed), _ | some (.native _ .slot), _ | some (.native _ .property), _ =>
    setComputed p v key a
  | found, .object r =>
    if World.hasOwn cls then putOwn r key a
    else if found.isSome then
      complain .attribute
        ("'" ++ w.typeName v ++ "' object attribute '" ++ key ++ "' is read-only")
    else noAttribute v key
  | some _, _ =>
    complain .attribute
      ("'" ++ w.typeName v ++ "' object attribute '" ++ key ++ "' is read-only")
  | none, _ => noAttribute v key

/-- Sets an attribute; the library's frozen records refuse. -/
def setAttribute (p : Performer) (v : Value) (key : String) (a : Value) : Act Unit := do
  let w ← get
  match v, w.object? v, w.asClass? v with
  | .object r, some (.mock m), _ => setOnMock p r m key a
  | _, _, some c => setOnClass v c key a
  | _, _, none =>
    match w.override? v "__setattr__" with
    | some f => discard (callOverride p v f [.text key, a])
    | none => if isFrozen (w.classOf v) then raise .frozenInstance [] else setPlain p v key a

/-! ### Taking away -/

/-- Takes away a value that is computed for an object, if that is possible. -/
def deleteComputed (v : Value) (key : String) : Act Unit := do
  match v, ← look v with
  | _, some (.mock _) => readOnly v key
  | .object r, some (.error _) =>
    if ["args", "__cause__", "__context__", "__traceback__"].contains key then
      complain .type (key ++ " may not be deleted")
    else if key = "__suppress_context__" then
      complain .type "can't delete numeric/char attribute"
    else modifyError r fun e => { e with slots := e.slots.filter fun s => s.1 != key }
  | .object r, some (.function code defaults naming) =>
    match key with
    | "__doc__" => put r (.function code defaults { naming with doc := .none })
    | "__module__" => put r (.function code defaults { naming with home := .none })
    | "__defaults__" => put r (.function code [] naming)
    | "__annotations__" => put r (.function code defaults { naming with annotations := none })
    | "__kwdefaults__" => pure ()
    | "__name__" | "__qualname__" => complain .type (key ++ " must be set to a string object")
    | "__code__" => complain .type "__code__ must be set to a code object"
    | "__dict__" => complain .type "cannot delete __dict__"
    | _ => complain .attribute "readonly attribute"
  | .object r, some (.declared inner naming) =>
    match key with
    | "__doc__" => put r (.declared inner { naming with doc := .none })
    | "__module__" => put r (.declared inner { naming with home := .none })
    | "__name__" | "__qualname__" => complain .type (key ++ " must be set to a string object")
    | _ => pure ()
  | _, some (.suspended _) =>
    if key = "__name__" || key = "__qualname__" then
      complain .type (key ++ " must be set to a string object")
    else readOnly v key
  | _, _ =>
    match key with
    | "__class__" => complain .type "can't delete __class__ attribute"
    | "__dict__" => complain .type "cannot delete __dict__"
    | _ => readOnly v key

/-- Takes an attribute away as any object does. -/
def deletePlain (v : Value) (key : String) : Act Unit := do
  let w ← get
  match w.inherited? (w.classOf v) key, v with
  | some (.native _ .computed), _ | some (.native _ .slot), _ | some (.native _ .property), _ =>
    deleteComputed v key
  | found, .object r =>
    if (w.ownOf? v key).isSome then dropOwn r key
    else if found.isSome && !World.hasOwn (w.classOf v) then
      complain .attribute
        ("'" ++ w.typeName v ++ "' object attribute '" ++ key ++ "' is read-only")
    else noAttribute v key
  | _, _ => noAttribute v key

/-- Takes an attribute away; the library's frozen records refuse. -/
def deleteAttribute (p : Performer) (v : Value) (key : String) : Act Unit := do
  let w ← get
  match v, w.object? v, w.asClass? v with
  | .object r, some (.mock m), _ => deleteOnMock r m key
  | .object r, _, some c =>
    if !isOpenClass c then
      complain .type ("cannot set '" ++ key ++ "' attribute of immutable type '" ++
        w.className c ++ "'")
    if (w.ownOf? v key).isSome then dropOwn r key else noAttribute v key
  | _, _, _ =>
    match w.override? v "__delattr__" with
    | some f => discard (callOverride p v f [.text key])
    | none => if isFrozen (w.classOf v) then raise .frozenInstance [] else deletePlain v key

end Provision.Script
