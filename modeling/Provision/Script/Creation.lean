import Provision.Script.Method.Bytes
import Provision.Script.Method.Mapping
import Provision.Script.Method.Record
import Provision.Script.Method.Sequence
import Provision.Script.Method.Text
import Provision.Text.Whole

/-!
Creation: what calling a class gives.

A class first makes an object (`newOf`) and then gives it what it is made of (`setUp`), which
can also be done again later. Scalars, texts and the like are made in one go. A class that a script
made leaves both to the most general class, unless it has methods of its own for them.
-/

namespace Provision.Script

/-! ### Scalars and collections -/

/-- The number that a value is made into. -/
def makeWhole (p : Performer) (v : Value) : Act Value := do
  let fails (shown : Value) : Act Value := do
    complain .value ("invalid literal for int() with base 10: " ++ (← p.repr shown))
  match World.number? v, v, ← look v with
  | some n, _, _ => return .int n
  | none, .text s, _ =>
    match Text.readWhole 10 s with
    | some n => return .int n
    | none => fails v
  | none, _, some (.bytes items) =>
    match Text.readWhole 10 (String.ofList (byteChars items)) with
    | some n => return .int n
    | none => fails v
  | none, _, _ =>
    match ← [ "__int__", "__index__", "__trunc__"].findSomeM? fun key => overridden? p v key [] with
    | some a => return a
    | none =>
      complain .type ("int() argument must be a string, a bytes-like object or a real number, " ++
        "not '" ++ (← get).typeName v ++ "'")

/-- The number that a text stands for in a base. -/
def makeWholeIn (p : Performer) (v base : Value) : Act Value := do
  let b ← wholeOf p base
  if b != 0 && (b < 2 || b > 36) then complain .value "int() base must be >= 2 and <= 36, or 0"
  match v, ← look v with
  | .text s, _ => read b s v
  | _, some (.bytes items) => read b (String.ofList (byteChars items)) v
  | _, _ => complain .type "int() can't convert non-string with explicit base"
where
  /-- Reads a number. -/
  read (b : Int) (s : String) (shown : Value) : Act Value := do
    match Text.readWhole b.toNat s with
    | some n => return .int n
    | none =>
      complain .value ("invalid literal for int() with base " ++ toString b ++ ": " ++
        (← p.repr shown))

/-- What is written in bytes: so many zeros, a text in an encoding, or other bytes. -/
def makeBytes (p : Performer) (args : List Value) (named : Named) : Act Value := do
  let given ← givenToMethod "bytes" (optional "source" .none :: codecParameters) args named
  let code := given.filter fun e => e.1 != "source"
  let (encoding, handling) ← codecGiven "bytes" code
  match given.lookup "source", code with
  | some (.text s), code =>
    if (code.lookup "encoding").isNone then
      complain .type "string argument without an encoding"
    encodeText s encoding handling
  | _, (word, _) :: _ => complain .type (word ++ " without a string argument")
  | none, [] => alloc (.bytes [])
  | some v, [] =>
    let direct := match (← get).object? v with
      | some (.bytes _) => true
      | _ => false
    if direct then return v
    let own := (← get).override? v "__bytes__"
    let size ← if own.isSome then pure none else indexOf? p v
    match size with
    | none => alloc (.bytes (← bytesFrom p v))
    | some n =>
      if n.natAbs > indexLimit then
        complain .overflow "cannot fit 'int' into an index-sized integer"
      if n < 0 then complain .value "negative count"
      if n.toNat > memoryLimit then raise .memory []
      alloc (.bytes (List.replicate n.toNat 0))

/-- A scalar, or another value that is complete once it is made. -/
def scalarOf? (p : Performer) (cls : String) (args : List Value) (named : Named) :
    Option (Act Value) :=
  let only (make : List Value → Act Value) : Option (Act Value) := some do
    if !named.isEmpty then complain .type (cls ++ "() takes no keyword arguments")
    if args.length > 1 then
      complain .type (cls ++ " expected at most 1 argument, got " ++ toString args.length)
    make args
  match cls with
  | "NoneType" | "NotImplementedType" => some do
    if !args.isEmpty || !named.isEmpty then complain .type (cls ++ " takes no arguments")
    if cls = "NoneType" then return .none else notImplemented
  | "bool" => only fun args => return .bool (← (args.head?.map p.truth).getD (pure false))
  | "int" => some do
    match args ++ (named.filter (·.1 = "base")).map (·.2) with
    | [] => return .int 0
    | [v] => makeWhole p v
    | [v, base] => makeWholeIn p v base
    | _ => complain .type "int() takes at most 2 arguments"
  | "str" => some do
    let given ← givenToMethod "str" (optional "object" (.text "") :: codecParameters) args named
    let code := given.filter fun e => e.1 != "object"
    let (encoding, handling) ← codecGiven "str" code
    match given.lookup "object", code with
    | none, _ => return .text ""
    | some v, [] => return .text (← p.str v)
    | some v, _ =>
      match ← look v with
      | some (.bytes items) => decodeBytes items encoding handling
      | _ =>
        complain .type ("decoding to str: need a bytes-like object, " ++ (← get).typeName v ++
          " found")
  | "bytes" => some (makeBytes p args named)
  | "tuple" => only fun
    | [] => newTuple []
    | v :: _ => do
      if (← get).isExactly v "tuple" then return v
      newTuple (← listOf p v)
  | "frozenset" => only fun
    | [] => newSetOf true .empty
    | v :: _ => do
      if (← get).isExactly v "frozenset" then return v
      newSetOf true (← setOf p v)
  | "mappingproxy" => only fun
    | [v] => do
      if (← get).isMapping v then alloc (.classView v)
      else
        complain .type ("mappingproxy() argument must be a mapping, not " ++ (← get).typeName v)
    | _ => complain .type "mappingproxy() missing required argument 'mapping' (pos 1)"
  | "reversed" => only fun
    | [v] => reverseIteratorOf p v
    | _ => complain .type "reversed expected 1 argument, got 0"
  | "method" => some do
    match args with
    | [f, self] =>
      if !(← get).isCallable f then complain .type "first argument must be callable"
      if self = .none then complain .type "self must not be None"
      alloc (.bound self f)
    | _ => complain .type ("method expected 2 arguments, got " ++ toString args.length)
  | _ => none

/-! ### Objects of classes -/

/-- The classes that only describe others, with the methods that they leave open. -/
def openMethods (cls : String) : List String :=
  match cls with
  | "Mapping" => ["__getitem__", "__iter__", "__len__"]
  | "Set" | "Collection" => ["__contains__", "__iter__", "__len__"]
  | "Sized" => ["__len__"]
  | "Iterable" => ["__iter__"]
  | "Container" => ["__contains__"]
  | "Reversible" => ["__iter__", "__reversed__"]
  | "AbstractContextManager" => ["__exit__"]
  | _ => []

/-- A function with some arguments supplied; supplying more adds to those, unless attributes were
set in between. -/
def supply (args : List Value) (named : Named) : Act Value := do
  match args with
  | [] => complain .type "type 'partial' takes at least one argument"
  | f :: rest =>
    let w ← get
    match w.object? f, w.own f with
    | some (.supplied inner first firstNamed), [] =>
      alloc (.supplied inner (first ++ rest)
        (named.foldl (fun entries e => Bindings.insert e.1 e.2 entries) firstNamed))
    | _, _ =>
      if w.isCallable f then alloc (.supplied f rest named)
      else complain .type "the first argument must be callable"

/-- A recorded call that is made of something like one. -/
def newCallOf (p : Performer) (args : List Value) (named : Named) : Act Value := do
  let noArgs ← newTuple []
  let noNamed ← newNamedDict []
  let params := [optional "value" noArgs, optional "name" .none, optional "parent" .none,
    optional "two" (.bool false), optional "from_kall" (.bool true)]
  match ← arguments "_Call.__new__" params args named with
  | [value, name, parent, two, fromCall] =>
    let items ← itemsOf p value
    let (_, first, second) := (callShape? (← get) noArgs noNamed items).getD (.none, noArgs, noNamed)
    let word := match items with
      | .text s :: _ => Value.text s
      | [s, _, _] => s
      | _ => if name = .none then .text "" else name
    allocWith (.call (if ← p.truth two then [first, second] else [word, first, second]))
      [("_mock_name", name), ("_mock_parent", parent), ("_mock_from_kall", fromCall)]
  | _ => return .none

/-- The classes whose objects are nothing but their attributes. -/
def isPlainClass (cls : String) : Bool :=
  ["Token", "SubToken", "Done", "SubDone", "Completed", "SequenceEnvironment", "Runtime",
    "ServiceProgram", "Cancellation", "ComposedEnvironment", "Obj", "Duck", "LookupEnv",
    "Recording", "PrintLogger", "MemoryDatabase", "SimpleNamespace", "_GeneratorContextManager",
    "object", "ContextDecorator", "ABC", "_GeneratorContextManagerBase"].contains cls

/-- Whether an object of a class takes arguments when it is made by the most general class. -/
def takesArguments (w : World) (c : ClassRef) : Bool :=
  match w.inherited? c "__init__" with
  | some (.native "object" _) => false
  | _ => true

/-- A new object of a class, before it is given what it is made of. -/
def newOf (p : Performer) (c : ClassRef) (args : List Value) (named : Named) : Act Value := do
  let w ← get
  let plain : Act Value := do
    if !(args.isEmpty && named.isEmpty) && !takesArguments w c then
      complain .type (w.className c ++ "() takes no arguments")
    alloc (.instance c)
  match c with
  | .made _ => plain
  | .known cls =>
    match scalarOf? p cls args named, ErrorKind.ofName? cls, openMethods cls with
    | some action, _, _ => action
    | none, some kind, _ => blankError kind args named
    | none, none, name :: names =>
      complain .type ("Can't instantiate abstract class " ++ cls ++ " with abstract method" ++
        (if names.isEmpty then " " else "s ") ++ ", ".intercalate (name :: names))
    | none, none, [] =>
      match cls with
      | "list" => newList []
      | "dict" => newDictOf .empty
      | "set" => newSetOf false .empty
      | "_CallList" => alloc (.callList #[])
      | "partial" => supply args named
      | "_Call" => newCallOf p args named
      | "KeysView" => alloc (.view .keys false (args.head?.getD .none))
      | "ValuesView" => alloc (.view .values false (args.head?.getD .none))
      | "ItemsView" => alloc (.view .items false (args.head?.getD .none))
      | "Mock" => newStandInOf p .plain args named
      | "AsyncMock" => newStandInOf p .async args named
      | "MagicMock" => newStandInOf p .magic args named
      | cls =>
        if isPlainClass cls then plain
        else complain .type ("cannot create '" ++ w.spokenClass c ++ "' instances")

/-! ### What an object is made of -/

/-- Gives an object what it is made of, where the class does so by a function. -/
def setUpWritten (p : Performer) (owner : String) (self : Value) (given : Matched Value)
    (q : Parameters) : Act Unit := do
  let values := (valuesOf q.params given.bound).drop 1
  match self, ← look self, values with
  | .object r, some (.error _), values => setUpOwnError p self r owner values
  | .object r, some (.instance _), [f, args, named] =>
    if owner = "_GeneratorContextManagerBase" then setUpGuard p r f args named
    else setUpRecord p self r owner given.bound
  | .object r, some (.instance _), _ => setUpRecord p self r owner given.bound
  | .object r, some (.call _), [_, name, parent, _, fromCall] =>
    [("_mock_name", name), ("_mock_parent", parent), ("_mock_from_kall", fromCall)].forM
      fun e => putOwn r e.1 e.2
  | .object r, some (.view aspect false _), [mapping] => put r (.view aspect false mapping)
  | _, _, _ => pure ()

/-- Gives a collection its items, or an error its arguments. -/
def setUpNative (p : Performer) (owner : String) (self : Value) (args : List Value)
    (named : Named) : Act Unit := do
  let w ← get
  let atMostOne (what : String) : Act Unit := do
    if what != "dict" && !named.isEmpty then
      complain .type (what ++ "() takes no keyword arguments")
    if args.length > 1 then
      complain .type (what ++ " expected at most 1 argument, got " ++ toString args.length)
  match self, w.object? self with
  | .object r, some (.error _) => setUpError r owner args named
  | .object r, some (.list _) =>
    atMostOne "list"
    put r (.list #[])
    for v in args do discard (listMember p r #[] "extend" [v] [])
  | .object r, some (.callList _) =>
    atMostOne "list"
    put r (.callList #[])
    for v in args do discard (listMember p r #[] "extend" [v] [])
  | .object r, some (.dict _) =>
    atMostOne "dict"
    for v in args do bindEntriesOf p r v
    (textPairs named).forM fun e => putEntry r e.1 e.2
  | .object r, some (.set false _) =>
    atMostOne "set"
    put r (.set false .empty)
    for v in args do put r (.set false (← addItems p (put r <| .set false ·) .empty v))
  | .object r, some (.instance (.known "SimpleNamespace")) =>
    if !args.isEmpty then complain .type "no positional arguments expected"
    named.forM fun e => putOwn r e.1 e.2
  | _, some (.instance c) =>
    if !(args.isEmpty && named.isEmpty) then
      let cls := w.className c
      complain .type <|
        if takesArguments w c then
          "object.__init__() takes exactly one argument (the instance to initialize)"
        else cls ++ ".__init__() takes exactly one argument (the instance to initialize)"
  | _, _ => pure ()

/-- Gives an object what it is made of, by the class that says how. -/
def setUp (p : Performer) (owner : String) (kind : MemberKind) (self : Value)
    (args : List Value) (named : Named) : Act Unit := do
  match kind with
  | .written =>
    let q := writtenParameters owner "__init__"
    setUpWritten p owner self
      (← fitArguments (owner ++ ".__init__") q (self :: args) named) q
  | _ => setUpNative p owner self args named

/-! ### Calling classes -/

/-- Whether a value is an object of a class. -/
def isObjectOf (w : World) (v : Value) (c : ClassRef) : Bool :=
  match c, w.classOf v with
  | .known name, .known cls => isSubclass cls name
  | c, d => c = d

/-- Gives a new object what it is made of: scripts may have put something else in that place. -/
def setUpNew (p : Performer) (v : Value) (args : List Value) (named : Named) : Act Unit := do
  let w ← get
  let checked (result : Value) : Act Unit := do
    if result != .none then
      complain .type ("__init__() should return None, not '" ++ (← get).typeName result ++ "'")
  match w.override? v "__init__", w.inherited? (w.classOf v) "__init__" with
  | some f, _ =>
    checked (← if bindsToObject w f then p.call f (v :: args) named else p.call f args named)
  | none, some (.native owner kind) =>
    let made := match w.object? v with
      | some (.mock _) | some (.call _) => true
      | some (.view _ false _) => false
      | _ => false
    if !made then setUp p owner kind v args named
  | none, _ => pure ()

/-- Calls a class. -/
def callClass (p : Performer) (cls : Value) (c : ClassRef) (args : List Value) (named : Named) :
    Act Value := do
  let w ← get
  match c, args, named with
  | .known "type", [v], [] => classValue (w.classOf v)
  | .known "type", _, _ | .known "ABCMeta", _, _ =>
    complain .type "type() takes 1 or 3 arguments"
  | c, args, named =>
    let own := match c with
      | .made r => w.ownOf? (.object r) "__new__"
      | .known _ => none
    let v ← match own with
      | some f => p.call f (cls :: args) named
      | none => newOf p c args named
    if isObjectOf (← get) v c then setUpNew p v args named
    return v

/-- A new class with methods that take any arguments and give nothing; each is called at once or
awaited. -/
def newContract (name : String) (methods : List (String × Bool)) : Act Value := do
  let own ← methods.mapM fun e => do
    let style := if e.2 then Style.coroutine else .plain
    let code : Function :=
      { name := e.1, style := style, params := [("self", none)], rest := some "args", body := [] }
    return (e.1, ← alloc (.function code [] ⟨e.1, e.1, .none, .text "__main__", none⟩))
  let member (key : String) : Act Value :=
    alloc (.symbol "getset_descriptor" ("<attribute '" ++ key ++ "' of '" ++ name ++ "' objects>"))
  let general := [("__module__", .text "__main__"), ("__dict__", ← member "__dict__"),
    ("__weakref__", ← member "__weakref__"), ("__doc__", .none)]
  let hidden := (own.lookup "__eq__").isSome && (own.lookup "__hash__").isNone
  allocWith (.contract name) <|
    own ++ general.filter (fun e => (own.lookup e.1).isNone) ++
      if hidden then [("__hash__", .none)] else []

end Provision.Script
