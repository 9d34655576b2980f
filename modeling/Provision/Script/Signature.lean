import Provision.Script.Container

/-!
Signatures: matching arguments to parameters.

Positional arguments go to the parameters in order and named ones by name; what is left is taken by
the defaults. The four ways in which this fails have their own words (`Mismatch.message`); methods of
the classes that are there from the start have others (`Mismatch.refusal`). Methods that are written
as functions have their parameters in a table (`writtenParameters`), the object that they are a
method of first.
-/

namespace Provision.Script

/-! ### Matching -/

/-- Why arguments do not fit. -/
inductive Mismatch where
  | missing (names : List String)
  | tooMany (required total given : Nat)
  | unexpected (name : String)
  | repeated (name : String)

/-- Names in quotes, listed. -/
def listNames : List String → String
  | [] => ""
  | [a] => "'" ++ a ++ "'"
  | [a, b] => "'" ++ a ++ "' and '" ++ b ++ "'"
  | names =>
    ", ".intercalate (names.dropLast.map fun n => "'" ++ n ++ "'")
      ++ ", and '" ++ names.getLast?.getD "" ++ "'"

/-- A mismatch in words. -/
def Mismatch.message (function : String) : Mismatch → String
  | .missing names =>
    function ++ "() missing " ++ toString names.length ++ " required positional argument" ++
      (if names.length = 1 then "" else "s") ++ ": " ++ listNames names
  | .tooMany required total given =>
    function ++ "() takes " ++
      (if required = total then toString total
        else "from " ++ toString required ++ " to " ++ toString total) ++
      " positional argument" ++ (if required = total && total = 1 then "" else "s") ++
      " but " ++ toString given ++ (if given = 1 then " was given" else " were given")
  | .unexpected name => function ++ "() got an unexpected keyword argument '" ++ name ++ "'"
  | .repeated name => function ++ "() got multiple values for argument '" ++ name ++ "'"

/-- A mismatch in the words of a method that belongs to a class from the start, of which the first
arguments were given by position. -/
def Mismatch.refusal (method : String) (params : List String) : Mismatch → String
  | .missing names =>
    let name := names.headD ""
    method ++ "() missing required argument '" ++ name ++ "' (pos " ++
      toString (params.idxOf name + 1) ++ ")"
  | .tooMany _ total given =>
    method ++ "() takes at most " ++ toString total ++ " arguments (" ++ toString given ++ " given)"
  | .unexpected name => "'" ++ name ++ "' is an invalid keyword argument for " ++ method ++ "()"
  | .repeated name =>
    "argument for " ++ method ++ "() given by name ('" ++ name ++ "') and position (" ++
      toString (params.idxOf name + 1) ++ ")"

/-- The parameters that positional arguments go to, and the arguments that are left. -/
def placePositional {α β : Type} : List (String × α) → List β → List (String × β) × List β
  | [], args => ([], args)
  | _, [] => ([], [])
  | (name, _) :: params, a :: args =>
    let (bound, left) := placePositional params args
    ((name, a) :: bound, left)

/-- Adds named arguments to those bound by position, and gives those that no parameter has the name
of. -/
def placeNamed {α β : Type} (params : List (String × α)) (takesNamed : Bool) :
    List (String × β) → List (String × β) →
      Except Mismatch (List (String × β) × List (String × β))
  | bound, [] => .ok (bound, [])
  | bound, (name, a) :: rest =>
    if params.all fun q => q.1 != name then
      if takesNamed then
        match placeNamed params takesNamed bound rest with
        | .ok (bound, left) => .ok (bound, (name, a) :: left)
        | .error m => .error m
      else .error (.unexpected name)
    else if bound.any fun q => q.1 = name then .error (.repeated name)
    else placeNamed params takesNamed (bound ++ [(name, a)]) rest

/-- The parameters without an argument and without a default. -/
def unfilled {α β : Type} (params : List (String × Option α)) (bound : List (String × β)) :
    List String :=
  (params.filter fun q => q.2.isNone && bound.all fun b => b.1 != q.1).map (·.1)

/-- What arguments go to: parameters by name, and what is left by position and by name. -/
structure Matched (β : Type) where
  bound : List (String × β)
  rest : List β
  named : List (String × β)

/-- Binds arguments to parameters, leaving out those that take their defaults. -/
def matchArguments {α β : Type} (params : List (String × Option α)) (takesRest takesNamed : Bool)
    (args : List β) (named : List (String × β)) : Except Mismatch (Matched β) := do
  let (bound, left) := placePositional params args
  let (bound, further) ← placeNamed params takesNamed bound named
  if !takesRest && !left.isEmpty then
    .error (.tooMany (params.filter (·.2.isNone)).length params.length args.length)
  match unfilled params bound with
  | [] => .ok ⟨bound, left, further⟩
  | names => .error (.missing names)

/-! ### Parameters -/

/-- Parameters of a function that is not written by a script, with the values of those that may be
left out. -/
structure Parameters where
  params : List (String × Option Value)
  takesRest : Bool := false
  takesNamed : Bool := false

/-- A parameter that has to be given. -/
def required (name : String) : String × Option Value := (name, none)

/-- A parameter that may be left out. -/
def optional (name : String) (v : Value) : String × Option Value := (name, some v)

/-- The parameters of a method, of which the object is the first. -/
def methodOf (params : List (String × Option Value)) : Parameters :=
  { params := required "self" :: params }

/-- The parameters of a method that takes any further arguments. -/
def methodOfAny (params : List (String × Option Value)) : Parameters :=
  { params := required "self" :: params, takesRest := true, takesNamed := true }

/-- The arguments of a call by the parameters of the function, of some name. -/
def fitArguments (function : String) (q : Parameters) (args : List Value) (named : Named) :
    Act (Matched Value) := do
  match matchArguments q.params q.takesRest q.takesNamed args named with
  | .ok fitted => return fitted
  | .error m => complain .type (m.message function)

/-- The arguments that a library function was given, by its parameters. -/
def givenArguments (function : String) (params : List (String × Option Value))
    (args : List Value) (named : Named) : Act Named := do
  return (← fitArguments function { params := params } args named).bound

/-- The values of parameters in their order. -/
def valuesOf (params : List (String × Option Value)) (bound : Named) : List Value :=
  params.map fun q => ((bound.lookup q.1).or q.2).getD .none

/-- The values of a library function's parameters in their order. -/
def arguments (function : String) (params : List (String × Option Value)) (args : List Value)
    (named : Named) : Act (List Value) := do
  return valuesOf params (← givenArguments function params args named)

/-- The arguments that a method of a class was given, by its parameters. -/
def givenToMethod (method : String) (params : List (String × Option Value)) (args : List Value)
    (named : Named) : Act Named := do
  let given := args.length + named.length
  let fitted :=
    if given > params.length then .error (.tooMany 0 params.length given)
    else matchArguments params false false args named
  match fitted with
  | .ok fitted => return fitted.bound
  | .error m => complain .type (m.refusal method (params.map (·.1)))

/-- The values of a method's parameters in their order. -/
def methodArguments (method : String) (params : List (String × Option Value)) (args : List Value)
    (named : Named) : Act (List Value) := do
  return valuesOf params (← givenToMethod method params args named)

/-- The parameters by which the methods that stand for operators are called. -/
def operatorParameters (name : String) : Parameters :=
  match name with
  | "__iter__" | "__next__" | "__len__" | "__repr__" | "__str__" | "__hash__" | "__enter__"
  | "__dir__" | "__reduce__" | "_recreate_cm" => methodOf []
  | "__setattr__" => methodOf [required "name", required "val"]
  | "__delattr__" | "__getattribute__" | "__getattr__" => methodOf [required "name"]
  | "__getitem__" => methodOf [required "name"]
  | "__contains__" => methodOf [required "key"]
  | "__call__" => methodOfAny []
  | _ => methodOf [required "other"]

/-- The parameters of the methods of a class that are written as functions. -/
def writtenParameters (owner name : String) : Parameters :=
  match owner, name with
  | "Token", "__init__" => methodOf [required "name", optional "contract" .none]
  | "Token", "make" | "Token", "provide" => methodOf [required "implementation"]
  | "Done", "__init__" | "Completed", "__init__" => methodOf [required "value"]
  | "SequenceEnvironment", "__init__" => methodOf [required "sequence"]
  | "SequenceEnvironment", "consumed" | "SequenceEnvironment", "consume" => methodOf []
  | "SequenceEnvironment", "composed_with" => methodOf [required "fallback"]
  | "ComposedEnvironment", "__init__" => methodOf [required "environments"]
  | "Runtime", "__init__" => methodOf [optional "defaults" .none]
  | "Runtime", "environment_for" => methodOf [optional "overrides" .none]
  | "Runtime", "run" | "Runtime", "run_sync" =>
    methodOf [required "program", optional "overrides" .none, optional "cancellation" .none]
  | "Runtime", "extend" | "ServiceProgram", "with_args" => methodOfAny []
  | "ServiceProgram", "__init__" =>
    methodOf [required "services", required "factory", optional "args" .none,
      optional "kwargs" .none]
  | "ServiceProgram", "tokens" => methodOf []
  | "ServiceProgram", "_start" => methodOf [required "implementations"]
  | "ServiceProgram", "run" | "ServiceProgram", "run_sync" =>
    methodOf [required "implementations", optional "cancellation" .none]
  | "Cancellation", "cancel" | "Cancelled", "__init__" => methodOf [optional "reason" .none]
  | "Cancellation", "__init__" | "Cancellation", "error"
  | "Cancellation", "raise_if_cancelled" => methodOf []
  | "ServiceNotProvided", "__init__" => methodOf [required "name"]
  | "ResolutionTypeError", "__init__" =>
    methodOf [required "payload", optional "message" .none]
  | "PrintLogger", "info" => methodOf [required "message"]
  | "MemoryDatabase", "__init__" => methodOf []
  | "MemoryDatabase", "query" =>
    { params := [required "self", required "sql"], takesRest := true }
  | "MemoryDatabase", "count" => methodOf [required "table"]
  | "SubToken", "send" => methodOf [required "value"]
  | "SubToken", "throw" => methodOf [required "error"]
  | "SubToken", "close" => methodOf []
  | "Obj", "__init__" => methodOf [required "label", optional "attrs" .none]
  | "Duck", "__init__" =>
    methodOf [required "label", optional "sync" .none, optional "async_" .none,
      optional "omit" .none]
  | "LookupEnv", "__init__" => methodOf [required "label", required "f"]
  | "Recording", "__init__" => methodOf [required "env"]
  | "MappingView", "__init__" => methodOf [required "mapping"]
  | "Mapping", "get" => methodOf [required "key", optional "default" .none]
  | "Mapping", "keys" | "Mapping", "values" | "Mapping", "items" | "Set", "_hash" => methodOf []
  | "Mapping", "__getitem__" => methodOf [required "key"]
  | "_GeneratorContextManagerBase", "__init__" =>
    methodOf [required "func", required "args", required "kwds"]
  | "_GeneratorContextManager", "__exit__" =>
    methodOf [required "typ", required "value", required "traceback"]
  | "AbstractContextManager", "__exit__" =>
    methodOf [required "exc_type", required "exc_value", required "traceback"]
  | "ContextDecorator", "__call__" => methodOf [required "func"]
  | "ABCMeta", "register" => methodOf [required "subclass"]
  | "NonCallableMock", "attach_mock" => methodOf [required "mock", required "attribute"]
  | "NonCallableMock", "mock_add_spec" | "MagicMock", "mock_add_spec"
  | "NonCallableMock", "_mock_add_spec" =>
    methodOf [required "spec", optional "spec_set" (.bool false)]
  | "NonCallableMock", "assert_has_calls" | "AsyncMockMixin", "assert_has_awaits" =>
    methodOf [required "calls", optional "any_order" (.bool false)]
  | "NonCallableMock", "reset_mock" =>
    methodOf [optional "visited" .none, optional "return_value" (.bool false),
      optional "side_effect" (.bool false)]
  | "NonCallableMock", "_call_matcher" => methodOf [required "_call"]
  | "NonCallableMock", "_format_mock_call_signature" =>
    methodOf [required "args", required "kwargs"]
  | "NonCallableMock", "_get_call_signature_from_name" => methodOf [required "name"]
  | "NonCallableMock", "_format_mock_failure_message" =>
    methodOf [required "args", required "kwargs", optional "action" (.text "call")]
  | "NonCallableMock", "_calls_repr" => methodOf [optional "prefix" (.text "Calls")]
  | "NonCallableMock", "assert_not_called" | "NonCallableMock", "assert_called"
  | "NonCallableMock", "assert_called_once" | "AsyncMockMixin", "assert_awaited"
  | "AsyncMockMixin", "assert_awaited_once" | "AsyncMockMixin", "assert_not_awaited"
  | "NonCallableMock", "_extract_mock_name" | "_Call", "call_list"
  | "_Call", "_get_call_arguments" | "MagicMixin", "_mock_set_magics" => methodOf []
  | "NonCallableMock", "_get_child_mock" =>
    { params := [required "self"], takesNamed := true }
  | "_Call", "__init__" =>
    methodOf [optional "value" .none, optional "name" .none, optional "parent" .none,
      optional "two" (.bool false), optional "from_kall" (.bool true)]
  | "_GeneratorContextManager", name | "Token", name | "Done", name | "Completed", name
  | "SequenceEnvironment", name | "ComposedEnvironment", name | "Runtime", name
  | "ServiceProgram", name | "Cancellation", name | "SubToken", name | "Obj", name | "Duck", name
  | "LookupEnv", name | "Recording", name | "KeysView", name | "ValuesView", name
  | "ItemsView", name | "MappingView", name | "Mapping", name | "Set", name | "Sized", name
  | "Iterable", name | "Container", name | "ContextDecorator", name | "Cancelled", name
  | "ServiceNotProvided", name | "_Call", name | "_CallList", name | "ABCMeta", name
  | "AbstractContextManager", name | "_GeneratorContextManagerBase", name | "Reversible", name =>
    operatorParameters name
  | _, name =>
    if ["__repr__", "__dir__", "__setattr__", "__delattr__", "__getattr__"].contains name then
      operatorParameters name
    else methodOfAny []

end Provision.Script
