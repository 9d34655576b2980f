import Provision.Script.Creation

/-!
Methods: what the members of classes do when they are called.

A member is called with its object in front of the other arguments (`callMember`); most refuse an
object that is not of their class. Operators come first, as all classes write them in the same way;
any other name goes to the class that has it (`builtInMember`, `writtenMember`).
-/

namespace Provision.Script

/-! ### Members of classes themselves -/

/-- A class with something in brackets behind it. -/
def classAlias (p : Performer) (cls : Value) (args : List Value) : Act Value := do
  let w ← get
  let items := match args with
    | [v] =>
      match w.object? v with
      | some (.tuple items) => items
      | _ => [v]
    | _ => args
  let spoken (v : Value) : Act String := do
    match w.asClass? v with
    | some c => return w.placedClass c
    | none => p.repr v
  let inner := ", ".intercalate (← items.mapM spoken)
  alloc (.symbol "GenericAlias" ((← spoken cls) ++ "[" ++ inner ++ "]"))

/-- The methods that belong to a class itself. -/
def ofClassMember (p : Performer) (name : String) (cls : Value) (args : List Value)
    (named : Named) : Act Value := do
  match name, args with
  | "from_bytes", _ =>
    let n ← numberFromBytes p args named
    if (← get).asClass? cls = some (.known "bool") then return .bool (← p.truth n) else return n
  | "fromhex", [.text s] =>
    match bytesOfHex 0 s.toList with
    | .ok items => alloc (.bytes items)
    | .error place =>
      complain .value ("non-hexadecimal number found in fromhex() arg at position " ++
        toString place)
  | "fromhex", [v] =>
    complain .type ("fromhex() argument must be str, not " ++ (← get).typeName v)
  | "fromkeys", [keys] => dictFromKeys p keys .none
  | "fromkeys", [keys, otherwise] => dictFromKeys p keys otherwise
  | "_from_iterable", [v] => newSetOf false (← setOf p v)
  | "__class_getitem__", args => classAlias p cls args
  | "__prepare__", _ => newDictOf .empty
  | name, args => generalMember p name cls args

/-- The functions of a class that are bound to nothing. -/
def freeMember (p : Performer) (owner name : String) (args : List Value) (named : Named) :
    Act Value := do
  match name, args with
  | "maketrans", args =>
    match owner, args with
    | "bytes", [source, target] => byteTable source target
    | "bytes", _ => wrongCount owner name args
    | _, args => translationTable p args
  | _, cls :: args =>
    let w ← get
    match w.asClass? cls with
    | some c =>
      if World.belongsTo owner c then newOf p c args named
      else
        complain .type (owner ++ ".__new__(" ++ w.className c ++ "): " ++ w.className c ++
          " is not a subtype of " ++ owner)
    | none =>
      complain .type (owner ++ ".__new__(X): X is not a type object (" ++ w.typeName cls ++ ")")
  | _, [] => complain .type (owner ++ ".__new__(): not enough arguments")

/-! ### Members of objects -/

/-- What a descriptor of a class computes for an object, and what it lets one do to it. -/
def descriptorMember (p : Performer) (self : Value) (owner key name : String)
    (args : List Value) : Act Value := do
  match name, args with
  | "__get__", object :: cls =>
    if object = .none then bindTo self object (cls.head?.getD .none)
    else if World.belongsTo owner ((← get).classOf object) then computed object owner key
    else foreignObject .computed owner key object
  | "__set__", [object, v] => setComputed p object key v; return .none
  | "__delete__", [object] => deleteComputed object key; return .none
  | _, _ => wrongCount "getset_descriptor" name args

/-- How a function with some arguments supplied could be made again. -/
def supplyRecipe (f : Value) (args : List Value) (named : Named) (self : Value) : Act Value := do
  let w ← get
  let own := w.own self
  let attributes ← if own.isEmpty then pure .none else newNamedDict own
  newTuple [← classValue (w.classOf self), ← newTuple [f],
    ← newTuple [f, ← newTuple args, ← newNamedDict named, attributes]]

/-- A method of a class that is not written as a function. -/
def builtInMember (p : Performer) (owner name : String) (self : Value) (args : List Value)
    (named : Named) : Act Value := do
  if owner = "object" then return ← generalMember p name self args
  if owner = "type" then return ← classMember p name self args
  match self, ← look self with
  | .text s, _ => textMember p s name args named
  | .int n, _ => numberMember p n name args named
  | .bool b, _ =>
    if owner = "bool" then truthMember p b name args named
    else numberMember p (if b then 1 else 0) name args named
  | .object r, some o =>
    match o with
    | .list items | .callList items => listMember p r items name args named
    | .tuple items | .call items => tupleMember p items name args
    | .bytes items => bytesMember p items name args named
    | .dict entries => dictMember p r entries name args named
    | .set frozen entries => setMember p r frozen entries name args
    | .view .. => viewMember p self owner name args
    | .classView shown => classViewMember p self shown name args
    | .suspended s => suspendedMember p r s name args
    | .operation .. | .wrapper _ => awaitedMember p self owner name args
    | .iterator cls cursor => iteratorMember p r cls cursor name args
    | .error e => errorMember p r e owner name args
    | .member cls key => descriptorMember p self cls key name args
    | .supplied f first firstNamed =>
      if name = "__reduce__" then supplyRecipe f first firstNamed self
      else generalMember p name self args
    | _ => generalMember p name self args
  | _, _ => generalMember p name self args

/-- The classes of stand-ins, and those they have their methods from. -/
def isStandInClass (owner : String) : Bool :=
  ["Base", "NonCallableMock", "CallableMixin", "Mock", "MagicMixin", "MagicMock",
    "AsyncMockMixin", "AsyncMagicMixin", "AsyncMock"].contains owner

/-- A method of a class that is written as a function, by the arguments that it takes. -/
def writtenMember (p : Performer) (owner name : String) (self : Value) (q : Parameters)
    (given : Matched Value) : Act Value := do
  let values := (valuesOf q.params given.bound).drop 1
  let rest : CallArgs := (given.rest, given.named)
  if isStandInClass owner then
    match self, ← look self with
    | .object r, some (.mock _) => return ← standInMember p name r values rest
    | _, _ => return ← noAttribute self name
  if name = "__init__" then
    setUpWritten p owner self given q
    return .none
  let o ← look self
  let special : Option (Act Value) :=
    match o, name, values with
    | some (.call _), "__getattr__", [.text key] => some (plainAttribute.callAttribute self key)
    | some (.call items), _, _ => callMember? p name self items rest
    | some (.view ..), _, _ =>
      if ["_hash", "isdisjoint"].contains name || isViewOperator name then
        some (viewMember p self owner name values)
      else none
    | some (.instance (.known "_GeneratorContextManager")), _, _ =>
      if ["__enter__", "__exit__", "_recreate_cm"].contains name then
        some (guardMember p self name values)
      else none
    | _, _, _ => none
  let general := !(["__setattr__", "__delattr__"].contains name) && owner != "Mapping"
  match special, if general then operatorMember? p owner name self values else none with
  | some action, _ | none, some action => action
  | none, none =>
    if owner = "ABCMeta" then classMember p name self values
    else recordMember p owner name self values rest

/-- Whether an operator belongs to the general class of errors, which writes them all alike. -/
def isPlainForm (owner name : String) (o : Option Obj) : Bool :=
  match o with
  | some (.error _) => owner = "BaseException" && ["__repr__", "__str__"].contains name
  | _ => false

/-- Whether a method takes arguments by name. -/
def takesNamed (owner name : String) : Bool :=
  ["sort", "split", "rsplit", "splitlines", "encode", "expandtabs", "format", "to_bytes", "decode",
    "hex", "__prepare__"].contains name || (owner = "dict" && name = "update") ||
    (owner = "bytes" && name = "translate")

/-- Refuses arguments that a method of a class does not take. What it says begins with the class
that the method belongs to, or with that of the object that it is bound to. -/
def checkArguments (bound : Bool) (kind : MemberKind) (owner name : String) (self : Value)
    (args : List Value) (named : Named) : Act Unit := do
  let w ← get
  let cls := if bound then w.className ((w.asClass? self).getD (w.classOf self)) else owner
  let byName := takesNamed owner name
  if kind = .operator then
    if !named.isEmpty && !(["__init__", "__call__"].contains name) then
      complain .type ("wrapper " ++ name ++ "() takes no keyword arguments")
  else if !named.isEmpty && !byName then
    complain .type (cls ++ "." ++ name ++ "() takes no keyword arguments")
  let given := args.length + (if byName && name != "update" then named.length else 0)
  let arity := Arity.of kind owner name
  if !arity.allows given then complain .type (arity.refusal cls name given)

/-- Calls a member of a class with its object in front of the other arguments; it may have been
bound to the object before. -/
def callMember (p : Performer) (bound : Bool) (owner name : String) (args : List Value)
    (named : Named) : Act Value := do
  let kind := ((classInfo? owner).bind (·.kind? name)).getD .constant
  match kind, args with
  | .free, _ => freeMember p owner name args named
  | .written, _ =>
    let q := writtenParameters owner name
    let given ← fitArguments (owner ++ "." ++ name) q args named
    match given.bound.lookup "self", args with
    | some self, _ => writtenMember p owner name self q given
    | none, self :: _ => writtenMember p owner name self q given
    | none, [] => wrongCount owner name args
  | .ofClass, cls :: rest =>
    checkArguments bound kind owner name cls rest named
    ofClassMember p name cls rest named
  | kind, [] =>
    complain .type <|
      if kind = .operator then
        "descriptor '" ++ name ++ "' of '" ++ owner ++ "' object needs an argument"
      else "unbound method " ++ owner ++ "." ++ name ++ "() needs an argument"
  | kind, self :: rest =>
    let w ← get
    if !World.belongsTo owner (w.classOf self) then foreignObject kind owner name self
    checkArguments bound kind owner name self rest named
    match name with
    | "__call__" => p.call self rest named
    | "__init__" =>
      setUp p owner kind self rest named
      return .none
    | name =>
      let o ← look self
      match if isPlainForm owner name o then none else operatorMember? p owner name self rest with
      | some action => action
      | none => builtInMember p owner name self rest named

end Provision.Script
