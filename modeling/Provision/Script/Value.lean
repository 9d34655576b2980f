import Provision.Cancellation
import Provision.Plan
import Provision.Registration
import Provision.Script.Code
import Provision.Script.ErrorKind
import Provision.Script.Key
import Provision.Service
import Provision.Shelf
import Provision.Table

/-!
Values, objects and the world of a case.

A value is a scalar or a reference to an object; objects live in the world's store and keep their
identity. An object is of a class (`ClassRef`) and may have attributes of its own; a record of the
library is nothing but these two (`Obj.instance`). Everything that can be suspended (generators,
asynchronous generators, coroutines) is an object as well: its `Body` says where it stands, and for
a script function this is a stack of `Pending` statements. The `World` also holds what an answer
shows of a case: noted events, log records, printed text.
-/

namespace Provision.Script

/-! ### Values -/

/-- A scalar, or a reference to an object. -/
inductive Value where
  | none
  | bool (b : Bool)
  | int (i : Int)
  | text (s : String)
  | object (r : Nat)
  deriving Inhabited, BEq, DecidableEq

instance : ValueLike Value := ⟨.none⟩

/-- A class: one that is there from the start, known by its name, or one that a script made. -/
inductive ClassRef where
  | known (name : String)
  | made (r : Nat)
  deriving Inhabited, DecidableEq

/-- Arguments passed by name. -/
abbrev Named := List (String × Value)

/-- The arguments of a call. -/
abbrev CallArgs := List Value × Named

/-- What can go wrong in a computation: an error object was raised, an end signal was stopped at a
boundary or the closing signal was sent (their error objects are made when they are caught),
something that is no error was thrown, or the evaluation was cut off for lack of fuel. -/
inductive Fault where
  | raised (nature : Nature) (error : Nat)
  | stopped (boundary : Boundary) (cause : Nat)
  | closing
  | improper (v : Value)
  | spent
  deriving Inhabited

instance : ErrorLike Fault where
  nature
    | .raised n _ => n
    | .closing => .closing
    | .improper _ => .improper
    | .stopped .. => .ordinary
    | .spent => .ordinary
  stopped b e :=
    match e with
    | .raised _ r => .stopped b r
    | e => e
  exit := .closing

/-! ### Suspended bodies -/

/-- The end of a statement: it is done, or control leaves it. -/
inductive Completion where
  | normal
  | returned (v : Value)
  | raised (e : Fault)
  | left
  | continued
  deriving Inhabited

/-- What remains to be done of a statement that has begun. -/
inductive Pending where
  | block (rest : List Stmt)
  | attempt (handlers : List Handler) (otherwise cleanup : List Stmt)
  | handling (error : Nat) (cleanup : List Stmt)
  | otherwise (cleanup : List Stmt)
  | lastly (before : Completion)
  /-- An iteration over what an iterator still gives. -/
  | iteration (name : String) (iterator : Value) (body : List Stmt)
  | loop (test : Expr) (body : List Stmt)
  /-- A body inside a guard; `leave` is called on every way out. -/
  | consume (leave : Value)
  deriving Inhabited

/-- The point at which a body is suspended; `target` takes the value it is resumed with. -/
inductive Point where
  | start
  | yield (target : Option String)
  | await (target : Option String) (awaited : Value)
  | delegate (target : Option String) (inner : Value)
  deriving Inhabited

/-- The activation of a script function. -/
structure Frame where
  style : Style
  locals : List (String × Value)
  pending : List Pending
  point : Point
  deriving Inhabited

/-- A run and the surroundings that its requests are about. -/
structure Drive where
  manner : Manner
  environment : Value
  cancellation : Value
  run : Run Value Fault
  /-- What is awaited for the request that is being answered. -/
  awaited : Option Value
  /-- The errors that the run is handling, the latest first. -/
  handling : List Nat

/-- The computation inside a suspended object. -/
inductive Body where
  | script (f : Frame)
  /-- A token's own iteration: it yields the token and ends with what it is sent. -/
  | request (token : Value) (asked : Bool)
  /-- The iteration of a composed environment, with the names that it has given so far, in a
  dictionary. Once it has begun it goes through the layers, and through the names of one of them. -/
  | arrivals (environment given : Value) (progress : Option (Value × Option Value))
  | lifted (program : Value) (stage : Lifting.Stage)
  /-- A routine, with the continuation of the suspension it is in and what is awaited there. -/
  | routine (r : Routine Value) (next : Option (Value → Routine Value)) (awaited : Option Value)
  | drive (d : Drive)
  /-- A service program that was not started yet. -/
  | serve (service implementations cancellation : Value)
  /-- It awaits something and ends as that ends. -/
  | waiting (inner : Value) (begun : Bool)
  | sleep (slept : Bool)
  | gather (members : List Value) (group : Option Nat)
  /-- A call of a stand-in that is made when the coroutine is awaited. -/
  | deferred (standIn : Nat) (call : CallArgs)
  /-- A query of the pretend database. -/
  | query (database sql : Value) (params : List Value)
  | constant (v : Value)

/-- The state of a suspended object. -/
inductive Stage where
  | created
  | suspended
  | running
  | closed
  deriving DecidableEq, Inhabited

/-- A generator, an asynchronous generator or a coroutine. -/
structure Suspended where
  /-- The qualified name, and the plain one. -/
  name : String
  plainName : String
  style : Style
  stage : Stage
  body : Body
  /-- Of an asynchronous generator: whether one of its operations is under way. -/
  busy : Bool
  /-- Of an asynchronous generator: whether it was told to close, or has ended. -/
  shut : Bool
  /-- Of an asynchronous generator: whether one of its operations was ever made. -/
  touched : Bool

/-- The operations of an asynchronous generator. -/
inductive Operation where
  | asend (v : Value)
  /-- What is thrown is made of the arguments when the operation is awaited. -/
  | athrow (args : List Value)
  | aclose

/-- The state of an operation that can be awaited once. -/
inductive OperationStage where
  | initial
  | underway
  | closed
  deriving DecidableEq

/-! ### Objects -/

/-- A key of a dictionary: what it is compared by, and the value that was given. Every key has a
stamp, and a key that came later has a greater one. -/
structure DictKey where
  key : Key
  shown : Value
  stamp : Nat
  deriving Inhabited

instance : BEq DictKey := ⟨fun a b => a.key == b.key⟩

instance : Hashable DictKey := ⟨fun k => k.key.hash⟩

/-- The dictionaries of scripts. -/
abbrev Dict := Bindings DictKey Value

/-- What a view of a mapping shows. -/
inductive Aspect where
  | keys
  | values
  | items
  deriving DecidableEq, Inhabited

/-- Where an iteration stands. An iteration over a list follows the list as it changes, and one over
a dictionary fails if keys come or go. -/
inductive Cursor where
  /-- Items that do not change. -/
  | items (all : Array Value) (position : Nat)
  | list (object : Nat) (position : Nat)
  /-- From the end of a list to its beginning; so many items are left. -/
  | listBack (object : Nat) (left : Nat)
  /-- The keys stamped `stamp` or later, or earlier than that on the way back; the dictionary had
  `size` keys at the start, and so many are left. -/
  | dict (object : Nat) (aspect : Aspect) (back : Bool) (stamp size left : Nat)
  /-- The items of a set from a place on; there were `size` at the start, and so many are left. -/
  | places (object : Nat) (position size left : Nat)
  /-- The items with the keys 0, 1, 2 and so on. -/
  | lookups (object : Value) (position : Nat)
  /-- The items with the keys from that below `left` down to 0. -/
  | lookupsBack (object : Value) (left : Nat)
  deriving Inhabited

/-- The classes of stand-ins. -/
inductive MockClass where
  | plain
  | async
  /-- One that also answers operators. -/
  | magic
  deriving DecidableEq

/-- The parameters of a function, as far as arguments can be matched to them. -/
structure Signature where
  /-- The parameters, and whether they may be left out. -/
  params : List (String × Bool)
  takesRest : Bool
  takesNamed : Bool

/-- What a stand-in object knows about itself. -/
structure Mock where
  cls : MockClass
  /-- Whether its calls are awaited. -/
  awaitable : Bool
  /-- The name it goes by in messages. -/
  name : Value
  /-- The last part of the path to it, and the stand-in that it was reached from. -/
  pathName : Option String
  pathParent : Option Nat
  /-- The stand-in that records its calls as calls of a method. -/
  parent : Option Nat
  /-- The class it passes for. -/
  spec : Option Value
  /-- The list of the names it is restricted to, unless it is nothing, and whether these are the only
  ones that can be set. -/
  listing : Value
  strict : Bool
  /-- The names that were listed when it was made, on which the operators it has depend. -/
  names : Option (List String)
  /-- The names whose calls are awaited. -/
  asyncNames : List String
  /-- The parameters that its calls have to fit. -/
  signature : Option Signature
  /-- Those reached from it by name; a name that was deleted has none. -/
  children : List (String × Option Value)
  /-- The operators that were set on it; what is kept takes the object as an argument or not. -/
  operators : List (String × Value)
  /-- What it remembers of its calls. -/
  log : List (String × Value)
  /-- What a call gives, once it was asked for or set. -/
  result : Option Value
  /-- What a call does in place of giving the result, unless it is nothing. -/
  effect : Value
  /-- What calls and names go on to, unless it is nothing. -/
  wraps : Value
  /-- Whether names that look like assertions are not refused. -/
  lenient : Bool
  /-- Whether no further stand-in can be reached from it. -/
  closed : Bool

/-- An error: what it was made of, and the errors that led to it. -/
structure ErrorParts where
  kind : ErrorKind
  /-- The tuple of the arguments. -/
  args : Value
  cause : Value
  context : Value
  /-- Whether the context is not to be told. -/
  suppress : Bool
  /-- Where it was raised. -/
  trace : Value
  /-- What errors of the kind keep beside their attributes. -/
  slots : List (String × Value)

/-- What a function says of itself. -/
structure Naming where
  name : String
  /-- The name with the place where the function is found. -/
  qualified : String
  doc : Value
  home : Value
  /-- A dictionary that is made when it is first asked for. -/
  annotations : Option Value

/-- The objects of scripts. What is set on one object by name is kept beside it, in its cell. -/
inductive Obj where
  | list (items : Array Value)
  | tuple (items : List Value)
  | dict (entries : Dict)
  | set (frozen : Bool) (items : Table DictKey)
  | bytes (items : List Nat)
  /-- A view of a dictionary, or of some other mapping. -/
  | view (aspect : Aspect) (ofDict : Bool) (mapping : Value)
  /-- An iterator of some class; there is no cursor once it is used up. -/
  | iterator (cls : String) (cursor : Option Cursor)
  /-- An object that is nothing but its attributes. -/
  | instance (cls : ClassRef)
  | error (e : ErrorParts)
  | rehearsal (sequence : Value) (fallback : Value) (journal : Journal Value)
  /-- A function, with the values of the parameters that may be left out. -/
  | function (code : Function) (defaults : List (String × Value)) (naming : Naming)
  /-- A function declared to make programs. -/
  | declared (inner : Value) (naming : Naming)
  /-- A method of a duck: it notes its call and passes it on. -/
  | relay (label target : Value) (method : String)
  /-- A function that calls another one with an object in front of the arguments. -/
  | prepended (self inner : Value) (name : String)
  | supplied (inner : Value) (args : List Value) (named : Named)
  /-- A member of a class that is there from the start. -/
  | member (owner name : String)
  /-- A function with the object that it is a method of. -/
  | bound (self function : Value)
  /-- A class made by a script. -/
  | contract (name : String)
  /-- One of the classes that are there from the start. -/
  | cls (name : String)
  /-- The attributes of a class, to be read. -/
  | classView (cls : Value)
  | mock (m : Mock)
  /-- A call that was recorded: its positional and its named arguments, behind its name if it has
  one. -/
  | call (items : List Value)
  | callList (items : Array Value)
  | suspended (s : Suspended)
  | operation (generator : Nat) (op : Operation) (stage : OperationStage)
  /-- What iterates a coroutine from the outside. -/
  | wrapper (coroutine : Nat)
  /-- An object of a class that is nothing but its text. -/
  | symbol (cls text : String)

instance : Inhabited Obj := ⟨.tuple []⟩

/-- The attributes of one object: kept with it, or in a dictionary that others can see. -/
inductive Own where
  | fields (entries : List (String × Value))
  | dictionary (r : Nat)

/-- An object, and the attributes that were set on it by name. -/
structure Cell where
  obj : Obj
  own : Own

/-! ### The world -/

/-- A value as it looked at the moment it was shown. -/
inductive Shown where
  | null
  | bool (b : Bool)
  | int (i : Int)
  | text (s : String)
  | list (items : List Shown)
  | fields (entries : List (String × Shown))
  deriving Inhabited

/-- A record of the log. -/
structure LogEntry where
  level : String
  logger : String
  text : String

/-- What a task's computation waits for when it gives way. -/
inductive Mark where
  /-- Its next turn. -/
  | turn
  /-- The end of a group of tasks. -/
  | group (g : Nat)
  /-- Whatever something else that is waited for gave. -/
  | given (v : Value)
  deriving Inhabited

/-- An entry in the queue of the event loop. -/
inductive Turn where
  | task (t : Nat)
  | memberDone (group : Nat)
  /-- The loop is to stop after this iteration. -/
  | stop

/-- A coroutine that the event loop runs. -/
structure Task where
  code : Value
  /-- The groups it is a member of. -/
  groups : List Nat
  /-- The group it waits for. -/
  waitsFor : Option Nat
  /-- Whether it is to be cancelled at its next turn. -/
  cancelled : Bool
  /-- The error that is thrown into it at its next turn. -/
  thrown : Option Nat
  /-- Whether the loop stops when it is done. -/
  stops : Bool
  result : Option (Except Fault Value)

/-- Tasks that are awaited together. -/
structure Group where
  /-- The tasks by the places of their results. -/
  members : List Nat
  /-- How many of them are still under way. -/
  remaining : Nat
  waiter : Option Nat
  cancelled : Bool

/-- The event loop: one queue, first in, first out. -/
structure EventLoop where
  queue : List Turn
  tasks : Array Task
  groups : Array Group
  /-- The asynchronous generators first used while this loop was running. -/
  generators : List Nat

/-- An event loop with nothing to do. -/
def EventLoop.idle : EventLoop := ⟨[], #[], #[], []⟩

/-- The world of a case. -/
structure World where
  store : Array Cell
  functions : List (String × Nat)
  /-- The objects that are made once, by name: the classes, and the tokens of routines. -/
  shared : List (String × Value)
  /-- The variables of the case. -/
  bound : List (String × Value)
  /-- The errors that are being handled, the latest first. -/
  handled : List Nat
  /-- The objects whose texts are being made. -/
  described : List Nat
  /-- The stamp of the next key. -/
  clock : Nat
  events : Array Shown
  records : Array LogEntry
  printed : String
  loop : EventLoop
  /-- Whether the event loop is running. -/
  looping : Bool

/-- The world before anything has happened. -/
def World.empty : World := ⟨#[], [], [], [], [], [], 0, #[], #[], "", .idle, false⟩

end Provision.Script
