import Provision.Script.Class
import Provision.Script.Value

/-!
Looking into the store: objects, their classes and the attributes that were set on them.

`World.classOf` gives the class of a value. A stand-in passes for the class it was made after, so
whoever asks for an instance asks with `World.isInstance`, and whoever needs the class itself with
`World.isExactly`.
-/

namespace Provision.Script

/-- How deep values are looked into. -/
def depthLimit : Nat := 100000

/-- The name of the class of a stand-in. -/
def MockClass.name : MockClass → String
  | .plain => "Mock"
  | .async => "AsyncMock"
  | .magic => "MagicMock"

/-- The name of the class of a view. -/
def viewClass (aspect : Aspect) (ofDict : Bool) : String :=
  match aspect with
  | .keys => if ofDict then "dict_keys" else "KeysView"
  | .values => if ofDict then "dict_values" else "ValuesView"
  | .items => if ofDict then "dict_items" else "ItemsView"

/-- The name of the class of a suspended object. -/
def styleClass : Style → String
  | .asyncGenerator => "async_generator"
  | .coroutine => "coroutine"
  | _ => "generator"

namespace World

/-- The cell a value refers to. -/
def cell? (w : World) : Value → Option Cell
  | .object r => w.store[r]?
  | _ => none

/-- The object a value refers to. -/
def object? (w : World) (v : Value) : Option Obj := (w.cell? v).map (·.obj)

/-- The text that a value is, if it is one. -/
def text? : Value → Option String
  | .text s => some s
  | _ => none

/-- The entries of a dictionary that are named by texts. -/
def namedEntries (entries : Dict) : List (String × Value) :=
  entries.pairs.filterMap fun p => (text? p.1.shown).map fun name => (name, p.2)

/-- The attributes that were set on a value by name. -/
def own (w : World) (v : Value) : List (String × Value) :=
  match w.cell? v with
  | some ⟨_, .fields entries⟩ => entries
  | some ⟨_, .dictionary r⟩ =>
    match w.object? (.object r) with
    | some (.dict entries) => namedEntries entries
    | _ => []
  | none => []

/-- An attribute that was set on a value by name. -/
def ownOf? (w : World) (v : Value) (key : String) : Option Value := (w.own v).lookup key

/-- The error at a reference. -/
def errorAt? (w : World) (r : Nat) : Option ErrorParts :=
  match w.object? (.object r) with
  | some (.error e) => some e
  | _ => none

/-- The items of a tuple. -/
def tupleItems (w : World) (v : Value) : List Value :=
  match w.object? v with
  | some (.tuple items) => items
  | _ => []

/-- The items of a list. -/
def listItems? : Option Obj → Option (Array Value)
  | some (.list items) => some items
  | some (.callList items) => some items
  | _ => none

/-- The items of a list or a tuple. -/
def sequenceItems? : Option Obj → Option (List Value)
  | some (.list items) | some (.callList items) => some items.toList
  | some (.tuple items) | some (.call items) => some items
  | _ => none

/-- The kind of an error that is being raised. -/
def kindOf (w : World) : Fault → Option ErrorKind
  | .raised _ r => (w.errorAt? r).map (·.kind)
  | .stopped .. => some .runtime
  | .closing => some .generatorExit
  | .improper _ => some .type
  | .spent => none

/-! ### Classes -/

/-- The name of the class of a member of a class, as an object. -/
def memberClass (owner name : String) : String :=
  match (classInfo? owner).bind (·.kind? name) with
  | some .operator => "wrapper_descriptor"
  | some .builtIn => "method_descriptor"
  | some .computed => "getset_descriptor"
  | some .slot => "member_descriptor"
  | some .property => "property"
  | some .ofClass => "classmethod_descriptor"
  | some .free => "builtin_function_or_method"
  | _ => "function"

/-- The name of the class of a method that is bound to an object. -/
def boundClass (function : Option Obj) : String :=
  match function with
  | some (.member owner name) =>
    match memberClass owner name with
    | "wrapper_descriptor" => "method-wrapper"
    | "function" => "method"
    | _ => "builtin_function_or_method"
  | _ => "method"

/-- The class of a value. -/
def classOf (w : World) (v : Value) : ClassRef :=
  match v with
  | .none => .known "NoneType"
  | .bool _ => .known "bool"
  | .int _ => .known "int"
  | .text _ => .known "str"
  | .object _ =>
    match w.object? v with
    | none => .known "object"
    | some o =>
      match o with
      | .instance cls => cls
      | .list _ => .known "list"
      | .tuple _ => .known "tuple"
      | .dict _ => .known "dict"
      | .set frozen _ => .known (if frozen then "frozenset" else "set")
      | .bytes _ => .known "bytes"
      | .view aspect ofDict _ => .known (viewClass aspect ofDict)
      | .iterator cls _ => .known cls
      | .error e => .known e.kind.name
      | .rehearsal .. => .known "object"
      | .function .. | .declared .. | .relay .. | .prepended .. => .known "function"
      | .supplied .. => .known "partial"
      | .member owner name => .known (memberClass owner name)
      | .bound _ f => .known (boundClass (w.object? f))
      | .contract _ => .known "type"
      | .cls name => .known (((classInfo? name).map (·.metaclass)).getD "type")
      | .classView _ => .known "mappingproxy"
      | .mock m => .known m.cls.name
      | .call _ => .known "_Call"
      | .callList _ => .known "_CallList"
      | .suspended s => .known (styleClass s.style)
      | .operation _ (.asend _) _ => .known "async_generator_asend"
      | .operation .. => .known "async_generator_athrow"
      | .wrapper _ => .known "coroutine_wrapper"
      | .symbol cls _ => .known cls

/-- The plain name of a class. -/
def className (w : World) : ClassRef → String
  | .known name => name
  | .made r =>
    match w.object? (.object r) with
    | some (.contract name) => name
    | _ => "type"

/-- The name of a class in messages. -/
def spokenClass (w : World) : ClassRef → String
  | .known "SimpleNamespace" => "types.SimpleNamespace"
  | .known "partial" => "functools.partial"
  | cls => w.className cls

/-- The name of the class of a value, in messages. -/
def typeName (w : World) (v : Value) : String := w.spokenClass (w.classOf v)

/-- The class that a value stands for, if it is one. -/
def asClass? (w : World) (v : Value) : Option ClassRef :=
  match v, w.object? v with
  | _, some (.cls name) => some (.known name)
  | .object r, some (.contract _) => some (.made r)
  | _, _ => none

/-- Whether a class is, or belongs to, one of those that are there from the start. -/
def belongsTo (ancestor : String) : ClassRef → Bool
  | .known name => isSubclass name ancestor
  | .made _ => ancestor = "object"

/-- The class that a stand-in passes for. -/
def guise? (w : World) (v : Value) : Option ClassRef :=
  match w.object? v with
  | some (.mock m) => m.spec.bind w.asClass?
  | _ => none

/-- Whether a value is of exactly this class. -/
def isExactly (w : World) (v : Value) (name : String) : Bool := w.classOf v = .known name

/-- Whether a value is an instance of a class, or passes for one. -/
def isInstance (w : World) (v : Value) (name : String) : Bool :=
  belongsTo name (w.classOf v) || ((w.guise? v).map (belongsTo name)).getD false

/-- Whether a value can be called. -/
def isCallable (w : World) (v : Value) : Bool :=
  match w.object? v with
  | some o =>
    match o with
    | .function .. | .declared .. | .relay .. | .prepended .. | .supplied .. | .bound ..
    | .contract _ | .cls _ | .mock _ | .call _ => true
    | .member owner name =>
      !(["getset_descriptor", "member_descriptor", "property"].contains (memberClass owner name))
    | .instance (.made r) => (w.ownOf? (.object r) "__call__").isSome
    | _ => false
  | none => false

/-- Whether a value is a mapping. -/
def isMapping (w : World) (v : Value) : Bool :=
  ["dict", "Mapping", "mappingproxy"].any (w.isInstance v)

/-- The last part of a qualified name. -/
def lastPart (name : String) : String := ((name.splitOn ".").getLast?).getD name

end World

end Provision.Script
