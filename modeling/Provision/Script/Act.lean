import Provision.Script.Store

/-!
Actions: computations that change the world of a case and may be cut short by a fault.

What an action has changed stays changed when it faults. `Act.attempt` makes a fault into a result,
and `Fault.settled` makes the error object of a fault that has none yet. An error that is raised
while another one is handled remembers that one as its context (`chainContext`).
-/

namespace Provision.Script

/-- A computation that changes the world and may fault. -/
abbrev Act := EStateM Fault World

namespace Act

/-- Runs an action, and turns its fault into a result. -/
def attempt {α : Type} (x : Act α) : Act (Except Fault α) := fun w =>
  match x w with
  | .ok a w => .ok (.ok a) w
  | .error e w => .ok (.error e) w

/-- The value of a result, or its fault. -/
def ofResult {α : Type} : Except Fault α → Act α
  | .ok a => pure a
  | .error e => throw e

end Act

/-- Puts a new object into the store, with attributes of its own. -/
def allocWith (o : Obj) (own : List (String × Value)) : Act Value := do
  let w ← get
  let r := w.store.size
  set { w with store := w.store.push ⟨o, .fields own⟩ }
  return .object r

/-- Puts a new object into the store. -/
def alloc (o : Obj) : Act Value := allocWith o []

/-- Replaces an object. -/
def put (r : Nat) (o : Obj) : Act Unit :=
  modify fun w => { w with store := w.store.modify r fun c => { c with obj := o } }

/-- The object a value refers to. -/
def look (v : Value) : Act (Option Obj) := return (← get).object? v

/-- The next stamp. -/
def nextStamp : Act Nat :=
  modifyGet fun w => (w.clock, { w with clock := w.clock + 1 })

/-- The key of a text. -/
def textKey (s : String) : DictKey := ⟨.text s, .text s, 0⟩

/-- Binds a key of the dictionary at a reference. -/
def putEntry (r : Nat) (key : DictKey) (v : Value) : Act Unit := do
  match ← look (.object r) with
  | some (.dict entries) => put r (.dict (entries.put { key with stamp := ← nextStamp } v))
  | _ => pure ()

/-- Takes a key out of the dictionary at a reference. -/
def dropEntry (r : Nat) (key : DictKey) : Act Unit := do
  match ← look (.object r) with
  | some (.dict entries) => put r (.dict (entries.erase key))
  | _ => pure ()

/-- Changes the attributes that were set on one object. -/
def modifyOwn (r : Nat) (f : List (String × Value) → List (String × Value)) : Act Unit :=
  modify fun w =>
    { w with store := w.store.modify r fun c =>
        match c.own with
        | .fields entries => { c with own := .fields (f entries) }
        | .dictionary _ => c }

/-- Sets an attribute of one object. -/
def putOwn (r : Nat) (key : String) (v : Value) : Act Unit := do
  match (← get).cell? (.object r) with
  | some ⟨_, .dictionary d⟩ => putEntry d (textKey key) v
  | _ => modifyOwn r (Bindings.insert key v)

/-- Takes an attribute away from one object. -/
def dropOwn (r : Nat) (key : String) : Act Unit := do
  match (← get).cell? (.object r) with
  | some ⟨_, .dictionary d⟩ => dropEntry d (textKey key)
  | _ => modifyOwn r fun entries => entries.filter fun e => e.1 != key

/-! ### Errors -/

/-- The kind of an error that is made with some arguments: one of the operating system is told apart
by its number. -/
def refinedKind (kind : ErrorKind) (args : List Value) : ErrorKind :=
  match kind, args with
  | .os, .int n :: _ => if 2 ≤ args.length && args.length ≤ 5 then .ofNumber n else .os
  | .os, .bool true :: _ => if 2 ≤ args.length && args.length ≤ 5 then .ofNumber 1 else .os
  | kind, _ => kind

/-- What errors of a kind keep of their arguments, beside their attributes. -/
def errorSlots (kind : ErrorKind) (args : List Value) : List (String × Value) :=
  match kind with
  | .stopIteration => [("value", args.head?.getD .none)]
  | .unicodeEncode | .unicodeDecode =>
    ["encoding", "object", "start", "end", "reason"].zip args
  | kind =>
    if kind.isA "OSError" then
      match args with
      | number :: text :: rest =>
        if rest.length > 3 then []
        else [("errno", number), ("strerror", text)] ++ fileSlots rest
      | _ => []
    else []
where
  /-- The name of the file that an error is about, and that of a second one. An operation that
  would have had to wait tells instead how much was written. -/
  fileSlots : List Value → List (String × Value)
    | [] | .none :: _ => []
    | file :: rest =>
      match kind, file with
      | .blockingOperation, .int n => [("characters_written", .int n)]
      | .blockingOperation, .bool b => [("characters_written", .int (if b then 1 else 0))]
      | _, file =>
        ("filename", file) :: match rest with
          | [_, .none] => []
          | [_, other] => [("filename2", other)]
          | _ => []

/-- The arguments that an error keeps: the names of files are not among them. -/
def keptArguments (slots : List (String × Value)) (args : List Value) : List Value :=
  if (slots.lookup "filename").isSome then args.take 2 else args

/-- The attributes that an error of a kind gets from its arguments. -/
def errorFields (kind : ErrorKind) (args : List Value) : List (String × Value) :=
  match kind with
  | .cancelled => [("reason", args.head?.getD .none)]
  | .serviceNotProvided => [("name", args.head?.getD .none)]
  | _ => []

/-- Makes an error object with the given attributes. -/
def makeErrorWith (kind : ErrorKind) (args : List Value) (own : List (String × Value)) :
    Act Nat := do
  let kind := refinedKind kind args
  let slots := errorSlots kind args
  let tuple ← alloc (.tuple (keptArguments slots args))
  match ← allocWith (.error ⟨kind, tuple, .none, .none, false, .none, slots⟩) own with
  | .object r => return r
  | _ => return 0

/-- Makes an error object. -/
def makeError (kind : ErrorKind) (args : List Value) : Act Nat :=
  makeErrorWith kind args (errorFields kind args)

/-- Changes an error. -/
def modifyError (r : Nat) (f : ErrorParts → ErrorParts) : Act Unit := do
  match (← get).errorAt? r with
  | some e => put r (.error (f e))
  | none => pure ()

/-- Takes an error out of a chain of contexts, at most so many links long. -/
def cutChain (r : Nat) : Nat → Nat → Act Unit
  | 0, _ => pure ()
  | n + 1, link => do
    match (← get).errorAt? link with
    | some { context := .object next, .. } =>
      if next = r then modifyError link fun e => { e with context := .none }
      else cutChain r n next
    | _ => pure ()

/-- Makes one error the context of another, unless they are the same. -/
def chainTo (r context : Nat) : Act Unit := do
  if context != r then
    cutChain r (← get).store.size context
    modifyError r fun e => { e with context := .object context }

/-- Makes the error that is being handled the context of one that is raised. -/
def chainContext (r : Nat) : Act Unit := do
  match (← get).handled with
  | h :: _ => chainTo r h
  | [] => pure ()

/-- Keeps with an error that it was raised. -/
def leaveTrace (r : Nat) : Act Unit := do
  match (← get).errorAt? r with
  | some { trace := .none, .. } =>
    let trace ← alloc (.symbol "traceback" "<traceback object>")
    modifyError r fun e => { e with trace := trace }
  | _ => pure ()

/-- Raises an error object. -/
def raiseObject {α : Type} (r : Nat) : Act α := do
  chainContext r
  leaveTrace r
  match (← get).errorAt? r with
  | some e => throw (.raised e.kind.nature r)
  | none => throw (.raised .ordinary r)

/-- Raises a new error. -/
def raise {α : Type} (kind : ErrorKind) (args : List Value) : Act α := do
  raiseObject (← makeError kind args)

/-- Raises a new error with a message. -/
def complain {α : Type} (kind : ErrorKind) (message : String) : Act α :=
  raise kind [.text message]

/-- The words for an end signal that was stopped at a boundary. -/
def Boundary.words (b : Boundary) (n : Nature) : String :=
  let who := match b with
    | .coroutine => "coroutine"
    | .lifting => "async generator"
  let what := match n with
    | .asyncEnded => "StopAsyncIteration"
    | _ => "StopIteration"
  who ++ " raised " ++ what

/-- Makes an error that takes the place of another one, which it names as its cause. -/
def makeFrom (kind : ErrorKind) (message : String) (cause : Nat) : Act Nat := do
  let r ← makeError kind [.text message]
  modifyError r fun e =>
    { e with cause := .object cause, context := .object cause, suppress := true }
  return r

/-- The error object of a fault; there is none if the evaluation was cut off. -/
def Fault.object : Fault → Act (Option Nat)
  | .raised _ r => return some r
  | .stopped b cause => do
    let nature := (((← get).errorAt? cause).map (·.kind.nature)).getD .ended
    return some (← makeFrom .runtime (Boundary.words b nature) cause)
  | .closing => do
    let r ← makeError .generatorExit []
    chainContext r
    return some r
  | .improper v => do
    let r ← makeError .type
      [.text ("exceptions must be classes or instances deriving from BaseException, not " ++
        (← get).typeName v)]
    chainContext r
    return some r
  | .spent => return none

/-- The fault with its error object made. -/
def Fault.settled (e : Fault) : Act Fault := do
  match e with
  | .raised .. => return e
  | e =>
    match ← e.object with
    | some r => return .raised (match e with | .closing => .closing | _ => .ordinary) r
    | none => return e

/-- Whether a fault is an error of a kind, by its name. -/
def isKind (e : Fault) (name : String) : Act Bool := do
  match (← get).kindOf e with
  | some k => return k.isA name
  | none => return false

/-- Does something while an error is being handled. -/
def whileHandling {α : Type} (handled : List Nat) (x : Act α) : Act α := do
  let before := (← get).handled
  modify fun w => { w with handled := handled }
  let result ← Act.attempt x
  modify fun w => { w with handled := before }
  Act.ofResult result

/-! ### Small makers -/

/-- A new list. -/
def newList (items : List Value) : Act Value := alloc (.list items.toArray)

/-- A new tuple. -/
def newTuple (items : List Value) : Act Value := alloc (.tuple items)

/-- A new object of a class that is there from the start, with attributes. -/
def newInstance (cls : String) (own : List (String × Value)) : Act Value :=
  allocWith (.instance (.known cls)) own

/-- A new token. -/
def newToken (name contract : Value) : Act Value :=
  newInstance "Token" [("name", name), ("contract", contract)]

/-- A new completion. -/
def newCompletion (v : Value) : Act Value := newInstance "Done" [("value", v)]

/-- An object that is made when it is first asked for, and is the same from then on. -/
def sharedObject (name : String) (make : Act Value) : Act Value := do
  match (← get).shared.lookup name with
  | some v => return v
  | none =>
    let v ← make
    modify fun w => { w with shared := (name, v) :: w.shared }
    return v

/-- A class as an object. -/
def classValue : ClassRef → Act Value
  | .made r => return .object r
  | .known name => sharedObject ("class " ++ name) (alloc (.cls name))

/-- A member of a class as an object. -/
def memberValue (owner name : String) : Act Value :=
  sharedObject ("member " ++ owner ++ "." ++ name) (alloc (.member owner name))

/-- The value that an operator gives which does not know the other side. -/
def notImplemented : Act Value :=
  sharedObject "NotImplemented" (alloc (.symbol "NotImplementedType" "NotImplemented"))

/-- Entries named by texts, as pairs of a dictionary. -/
def textPairs (entries : List (String × Value)) : List (DictKey × Value) :=
  entries.map fun e => (textKey e.1, e.2)

/-- Pairs with new stamps. -/
def stamped (pairs : List (DictKey × Value)) : Act (List (DictKey × Value)) :=
  pairs.mapM fun p => do return ({ p.1 with stamp := ← nextStamp }, p.2)

/-- A new dictionary with the given bindings. -/
def newDictOf (b : Dict) : Act Value := do alloc (.dict ⟨← stamped b.pairs⟩)

/-- A new dictionary of values named by texts. -/
def newNamedDict (entries : Named) : Act Value := newDictOf (Bindings.ofPairs (textPairs entries))

/-- The dictionary of the attributes that were set on an object; from now on it can be seen. -/
def ownDictionary (r : Nat) : Act Value := do
  match (← get).cell? (.object r) with
  | some ⟨_, .dictionary d⟩ => return .object d
  | _ =>
    let dictionary ← newNamedDict ((← get).own (.object r))
    match dictionary with
    | .object d =>
      modify fun w =>
        { w with store := w.store.modify r fun c => { c with own := .dictionary d } }
    | _ => pure ()
    return dictionary

end Provision.Script
