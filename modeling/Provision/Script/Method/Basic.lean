import Provision.Script.Cooperation
import Provision.Script.StandIn

/-!
Methods of every value: texts, comparisons, attributes, and the operators that all classes write in
the same way.

A method that was called with the wrong number of arguments says how many it takes (`Arity`).
`operatorMember?` is what the method for an operator does if it belongs to a class that is there
from the start.
-/

namespace Provision.Script

/-! ### Arity -/

/-- How many arguments a method takes, by the way in which it says so. -/
inductive Arity where
  | any
  | none
  | one
  /-- So many at least and at most, by position alone. -/
  | between (least most : Nat)
  /-- So many at least and at most, however they are given. -/
  | parsed (least most : Nat)
  /-- So many operands at least and at most; some operators speak of them behind a blank. -/
  | operands (least most : Nat) (blank : Bool)

/-- Whether a method takes so many arguments. -/
def Arity.allows : Arity → Nat → Bool
  | .any, _ => true
  | .none, given => given = 0
  | .one, given => given = 1
  | .between least most, given | .parsed least most, given | .operands least most _, given =>
    least ≤ given && given ≤ most

/-- How many arguments an operator of a class takes. -/
def Arity.ofOperator (cls name : String) : Arity :=
  if ["__init__", "__call__"].contains name then .any
  else if ["__len__", "__iter__", "__next__", "__hash__", "__repr__", "__str__", "__await__",
      "__aiter__", "__anext__", "__int__", "__index__", "__bool__", "__neg__", "__pos__",
      "__invert__", "__float__", "__abs__", "__del__"].contains name then .operands 0 0 false
  else if ["__setattr__", "__setitem__", "__set__"].contains name then .operands 2 2 true
  else if ["__pow__", "__rpow__", "__get__"].contains name then .operands 1 2 true
  else .operands 1 1 (cls != "int" && ["__mul__", "__rmul__", "__imul__"].contains name)

/-- How many arguments any other method of a class takes. -/
def Arity.ofMethod (cls name : String) : Arity :=
  if ["append", "extend", "remove", "join", "send", "asend", "isdisjoint", "add", "discard",
      "__format__", "with_traceback", "add_note", "__setstate__", "partition", "rpartition",
      "removeprefix", "removesuffix", "zfill", "format_map", "issubset", "issuperset",
      "symmetric_difference", "symmetric_difference_update", "__reduce_ex__",
      "__instancecheck__", "__subclasscheck__", "__class_getitem__", "fromhex", "__getitem__",
      "__contains__"].contains name then .one
  else if ["copy", "clear", "reverse", "popitem", "keys", "values", "items", "close", "aclose",
      "upper", "lower", "title", "capitalize", "casefold", "swapcase", "isascii", "islower",
      "isupper", "istitle", "isspace", "isdecimal", "isdigit", "isnumeric", "isalpha", "isalnum",
      "isidentifier", "isprintable", "bit_length", "bit_count", "conjugate", "as_integer_ratio",
      "__reversed__", "__sizeof__", "__dir__", "__reduce__", "__length_hint__", "mro",
      "__subclasses__", "__init_subclass__", "__trunc__", "__floor__", "__ceil__",
      "__getnewargs__", "__getstate__", "__bytes__"].contains name then .none
  else if ["center", "ljust", "rjust", "get", "setdefault", "fromkeys"].contains name then
    .between 1 2
  else if ["strip", "lstrip", "rstrip", "__round__"].contains name then .between 0 1
  else if ["expandtabs", "splitlines"].contains name then .parsed 0 1
  else if ["encode", "split", "rsplit", "decode", "hex"].contains name then .parsed 0 2
  else if ["find", "rfind", "rindex", "startswith", "endswith"].contains name then .parsed 1 3
  else match cls, name with
    | "set", "pop" => .none
    | "list", "pop" | "dict", "update" => .between 0 1
    | "dict", "pop" => .between 1 2
    | "list", "count" | "tuple", "count" | "str", "translate" => .one
    | "bytes", "translate" => .parsed 1 2
    | _, "count" => .parsed 1 3
    | "list", "index" | "tuple", "index" => .between 1 3
    | _, "index" => .parsed 1 3
    | "generator", "throw" | "coroutine", "throw" | "coroutine_wrapper", "throw" => .between 1 3
    | _, "insert" => .between 2 2
    | "bytes", "maketrans" => .between 2 2
    | _, "maketrans" => .between 1 3
    | _, "replace" => .between 2 3
    | _, _ => .any

/-- How many arguments a member of a class takes. -/
def Arity.of (kind : MemberKind) (cls name : String) : Arity :=
  if kind = .operator then .ofOperator cls name else .ofMethod cls name

/-- What is said of a wrong number of arguments. -/
def Arity.refusal (cls name : String) (given : Nat) : Arity → String
  | .any => name ++ "() takes no positional arguments"
  | .none => cls ++ "." ++ name ++ "() takes no arguments (" ++ toString given ++ " given)"
  | .one => cls ++ "." ++ name ++ "() takes exactly one argument (" ++ toString given ++ " given)"
  | .between least most =>
    name ++ " expected " ++ bound least most ++ ", got " ++ toString given
  | .parsed least most =>
    name ++ "() takes " ++ bound least most ++ " (" ++ toString given ++ " given)"
  | .operands least most blank =>
    (if blank then " " else "") ++ "expected " ++ bound least most ++ ", got " ++ toString given
where
  /-- The number of arguments that was missed. -/
  bound (least most : Nat) : String :=
    let wanted := if given < least then least else most
    (if least = most then "" else if given < least then "at least " else "at most ") ++
      toString wanted ++ " argument" ++ (if wanted = 1 then "" else "s")

/-- The error for a call of a method with the wrong number of arguments. -/
def wrongCount {α : Type} (cls name : String) (args : List Value) : Act α := do
  let kind := ((classInfo? cls).bind (·.kind? name)).getD .builtIn
  complain .type ((Arity.of kind cls name).refusal cls name args.length)

/-- The error for an argument of the wrong class. -/
def notInteger {α : Type} (v : Value) : Act α := do
  complain .type
    ("'" ++ (← get).typeName v ++ "' object cannot be interpreted as an integer")

/-- The number that an argument stands for. -/
def wholeOf (p : Performer) (v : Value) : Act Int := do
  match ← indexOf? p v with
  | some n => return n
  | none => notInteger v

/-- The number that an argument stands for which counts or places something. -/
def sizeOf (p : Performer) (v : Value) : Act Int := do
  let n ← wholeOf p v
  if n.natAbs > indexLimit then
    complain .overflow "Python int too large to convert to C ssize_t"
  return n

/-- The most that is ever made in one go. -/
def memoryLimit : Nat := 4294967296

/-- Items repeated. -/
def repeated {α : Type} (p : Performer) (items : List α) (times : Value) : Act (List α) := do
  let n ← wholeOf p times
  if n.natAbs > indexLimit then
    complain .overflow "cannot fit 'int' into an index-sized integer"
  if n.toNat * items.length > memoryLimit then raise .memory []
  return (List.replicate n.toNat items).flatten

/-- The operator whose sides a method exchanges. -/
def exchanged? (name : String) : Option String :=
  match name.toList with
  | '_' :: '_' :: 'r' :: rest =>
    if ["__rshift__", "__round__"].contains name then none
    else some (String.ofList ('_' :: '_' :: rest))
  | _ => none

/-- Something, or the value for an operator that does not know the other side. -/
def orNotImplemented (x : Act (Option Value)) : Act Value := do
  match ← x with
  | some v => return v
  | none => notImplemented

/-! ### Operators -/

/-- A reply of a suspended object as the result of a method. -/
def methodResult (style : Style) : Reply → Act Value
  | .yields v => return v
  | .waits m => return (Reply.waits m).value
  | .returns v => if style = .asyncGenerator then raise .stopAsyncIteration [] else raiseEnd v

/-- Takes the next item of an iterator, or raises the signal by which it ends. -/
def nextMember (p : Performer) (self : Value) : Act Value := do
  match self, ← look self with
  | .object r, some (.suspended s) => methodResult s.style (← sendTo p r .none)
  | _, some (.operation ..) | _, some (.wrapper _) =>
    methodResult .generator (← p (.advance self .none))
  | _, _ =>
    match ← nativeNext p self with
    | some v => return v
    | none => raise .stopIteration []

/-- The hash of a value as a number. -/
def hashNumber (p : Performer) (v : Value) : Act Value := do
  return .int (Key.signed (← keyOf p v).hash)

/-- Takes a key out of a dictionary, or an item out of a list. -/
def deleteItem (p : Performer) (self key : Value) : Act Unit := do
  match self, ← look self with
  | .object r, some (.dict entries) =>
    let k ← keyAmong p entries key
    if !entries.contains k then raise .key [key]
    dropEntry r k
  | .object r, some (.list items) =>
    let place ← placeOf p "list" "list assignment" items.size key
    put r (.list (items.toList.eraseIdx place).toArray)
  | .object r, some (.callList items) =>
    let place ← placeOf p "list" "list assignment" items.size key
    put r (.callList (items.toList.eraseIdx place).toArray)
  | _, _ => notAssignable p self key "doesn't support item deletion"

/-- The name of an attribute, which has to be a text. -/
def attributeName (v : Value) : Act String := do
  match v with
  | .text s => return s
  | v => complain .type ("attribute name must be string, not '" ++ (← get).typeName v ++ "'")

/-- What the most general class makes of a comparison. -/
def compareGeneral (p : Performer) (c : Comparison) (a b : Value) : Act Value := do
  match c with
  | .ne =>
    match ← compareBy p .eq a b with
    | some same => return .bool (!(← p.truth same))
    | none => notImplemented
  | c =>
    match compareIdentity c a b with
    | some v => return v
    | none => notImplemented

/-- The error for an object that a member of a class does not belong to. -/
def foreignObject {α : Type} (kind : MemberKind) (owner name : String) (v : Value) : Act α := do
  let given := (← get).typeName v
  complain .type <|
    if kind = .operator then
      "descriptor '" ++ name ++ "' requires a '" ++ owner ++ "' object but received a '" ++
        given ++ "'"
    else
      "descriptor '" ++ name ++ "' for '" ++ owner ++ "' objects doesn't apply to a '" ++
        given ++ "' object"

/-- A function or a member of a class as a method of an object, or as it is if there is none but a
class. -/
def bindTo (f object cls : Value) : Act Value := do
  let w ← get
  if object = .none then
    if cls = .none then complain .type "__get__(None, None) is invalid" else return f
  match w.object? f with
  | some (.member owner name) =>
    if World.memberClass owner name = "function" || World.belongsTo owner (w.classOf object) then
      alloc (.bound object f)
    else foreignObject .builtIn owner name object
  | _ => alloc (.bound object f)

/-- The method for an operator of a class that is there from the start, if all classes write it in
the same way. -/
def operatorMember? (p : Performer) (owner name : String) (self : Value) (args : List Value) :
    Option (Act Value) :=
  match name, args with
  | "__repr__", [] => some do
    if owner = "object" then
      return .text ("<" ++ (← get).placedClass ((← get).classOf self) ++ " object>")
    else return .text (← nativeRepr p self)
  | "__str__", [] => some do
    return .text (← if owner = "object" then p.repr self else nativeStr p self)
  | "__hash__", [] => some (hashNumber p self)
  | "__getattribute__", [key] => some do plainAttribute p self (← attributeName key)
  | "__setattr__", [key, v] => some do
    let key ← attributeName key
    match (← get).asClass? self with
    | some c => setOnClass self c key v
    | none => setPlain p self key v
    return .none
  | "__delattr__", [key] => some do
    let key ← attributeName key
    match (← get).asClass? self with
    | some _ => deleteAttribute p self key
    | none => deletePlain self key
    return .none
  | "__iter__", [] => some (nativeIterator p self)
  | "__next__", [] => some (nextMember p self)
  | "__len__", [] => some do return .int (Int.ofNat (← nativeCount p self))
  | "__getitem__", [key] => some (nativeItem p self key)
  | "__setitem__", [key, v] => some do setItem p self key v; return .none
  | "__delitem__", [key] => some do deleteItem p self key; return .none
  | "__contains__", [v] => some do return .bool (← nativeHolds p self v)
  | "__add__", [v] => some (orNotImplemented (nativeAdd self v))
  | "__bool__", [] => some do return .bool (← truthOf p self)
  | "__call__", args => some (p.call self args [])
  | "__aiter__", [] => some (return self)
  | "__anext__", [] => some do
    match self with
    | .object r => newOperation r (.asend .none)
    | _ => notIterable self
  | "__await__", [] => some do
    match self, ← look self with
    | .object r, some (.suspended _) => alloc (.wrapper r)
    | _, _ => return self
  | "__get__", object :: cls => some (bindTo self object (cls.head?.getD .none))
  | name, [v] => (Comparison.ofMethod? name).map fun c =>
    if owner = "object" then compareGeneral p c self v
    else orNotImplemented (compareNative p c self v)
  | _, _ => none

/-! ### Methods of every value -/

/-- The names that are listed for a value. -/
def listedNames (w : World) (v : Value) : List String :=
  (w.namesOf v).mergeSort fun a b => !(b < a)

/-- The methods that the most general class has, beside those for operators. -/
def generalMember (p : Performer) (name : String) (self : Value) (args : List Value) :
    Act Value := do
  let w ← get
  match name, args with
  | "__format__", [.text ""] => return .text (← p.str self)
  | "__format__", [.text _] =>
    complain .type ("unsupported format string passed to " ++ w.typeName self ++ ".__format__")
  | "__format__", [v] =>
    complain .type ("__format__() argument must be str, not " ++ w.typeName v)
  | "__sizeof__", [] => return .int 16
  | "__dir__", [] => newList ((listedNames w self).map .text)
  | "__getstate__", [] =>
    let own := w.own self
    if own.isEmpty then return .none else newNamedDict own
  | "__subclasshook__", _ => notImplemented
  | "__init_subclass__", _ => return .none
  | "__reduce__", [] | "__reduce_ex__", [_] =>
    complain .type ("cannot pickle '" ++ w.typeName self ++ "' object")
  | _, _ => wrongCount "object" name args

/-- Whether a value is of a class, or a class belongs to another one. -/
def belongsToValue (w : World) (cls c : Value) : Bool :=
  match w.asClass? cls with
  | some (.known name) => World.belongsTo name ((w.asClass? c).getD (w.classOf c))
  | some (.made r) => (w.asClass? c).getD (w.classOf c) = .made r
  | none => false

/-- Whether a value is of a class, or passes for an object of it. -/
def isOfClass (w : World) (v cls : Value) : Bool :=
  let under (c : ClassRef) : Bool :=
    match w.asClass? cls with
    | some (.known name) => World.belongsTo name c
    | some made => made = c
    | none => false
  under (w.classOf v) || ((w.guise? v).map under).getD false

/-- Either of two classes; nothing counts as a class here. -/
def eitherClass (p : Performer) (a b : Value) : Act Value := do
  let w ← get
  let spoken (v : Value) : Act String := do
    match v, w.asClass? v with
    | .none, _ => return "None"
    | _, some (.known name) => return placedName name
    | _, some c => return w.placedClass c
    | _, none => p.repr v
  let fits (v : Value) : Bool :=
    v = .none || (w.asClass? v).isSome ||
      ["GenericAlias", "UnionType"].contains (w.typeName v)
  if fits a && fits b then
    if a = b then return a
    alloc (.symbol "UnionType" ((← spoken a) ++ " | " ++ (← spoken b)))
  else notImplemented

/-- The methods of classes. -/
def classMember (p : Performer) (name : String) (self : Value) (args : List Value) :
    Act Value := do
  match name, args with
  | "mro", [] =>
    let classes ← p.read self "__mro__"
    newList ((← get).tupleItems classes)
  | "__subclasses__", [] => newList []
  | "__instancecheck__", [v] => return .bool (isOfClass (← get) v self)
  | "__subclasscheck__", [c] =>
    if ((← get).asClass? c).isNone then complain .type "issubclass() arg 1 must be a class"
    return .bool (belongsToValue (← get) self c)
  | "__or__", [c] => eitherClass p self c
  | "__ror__", [c] => eitherClass p c self
  | "__prepare__", _ => newDictOf .empty
  | "register", [c] => return c
  | _, _ => generalMember p name self args

end Provision.Script
