import Provision.Script.Method.Program

/-!
Methods of errors, and what an error is made of.

Most kinds of errors only keep their arguments (`setUpError`); some keep more beside them, and
the library's own kinds have fields that are set by functions (`setUpOwnError`).
-/

namespace Provision.Script

/-! ### Making -/

/-- A new error of a kind that has its arguments, but nothing else yet; an error of the operating
system is complete. -/
def blankError (kind : ErrorKind) (args : List Value) (named : Named) : Act Value := do
  if kind.isA "OSError" then
    if !named.isEmpty then complain .type (kind.name ++ "() takes no keyword arguments")
    return .object (← makeErrorWith kind args [])
  else
    let tuple ← newTuple args
    alloc (.error ⟨kind, tuple, .none, .none, false, .none, []⟩)

/-- What errors of a class can be given by name. -/
def errorKeywords (owner : String) : List String :=
  match owner with
  | "AttributeError" => ["name", "obj"]
  | "NameError" => ["name"]
  | _ => []

/-- Gives an error its arguments, and what its class keeps beside them. -/
def setUpError (r : Nat) (owner : String) (args : List Value) (named : Named) :
    Act Unit := do
  match (← get).errorAt? r with
  | none => pure ()
  | some e =>
    if isSubclass owner "OSError" && e.kind.isA "OSError" then return ()
    let keywords := errorKeywords owner
    match named.find? fun a => !keywords.contains a.1 with
    | some (key, _) =>
      if keywords.isEmpty then complain .type (e.kind.name ++ "() takes no keyword arguments")
      else
        complain .type ("'" ++ key ++ "' is an invalid keyword argument for " ++ owner ++ "()")
    | none => pure ()
    let codec := ["UnicodeEncodeError", "UnicodeDecodeError"].contains owner
    if codec && args.length != 5 then
      complain .type ("function takes exactly 5 arguments (" ++ toString args.length ++ " given)")
    let tuple ← newTuple args
    let slots :=
      if owner = "StopIteration" || codec then errorSlots e.kind args
      else if keywords.isEmpty then e.slots
      else named ++ e.slots.filter fun s => !keywords.contains s.1
    modifyError r fun e => { e with args := tuple, slots := slots }

/-- Gives an error of one of the library's own kinds its fields. -/
def setUpOwnError (p : Performer) (self : Value) (r : Nat) (owner : String)
    (values : List Value) : Act Unit := do
  let keep (args : List Value) : Act Unit := do
    let tuple ← newTuple args
    modifyError r fun e => { e with args := tuple }
  match owner, values with
  | "Cancelled", [reason] =>
    putOwn r "reason" reason
    keep [← p.read self "reason"]
  | "ServiceNotProvided", [name] =>
    keep [name]
    setAttribute p self "name" name
  | "ResolutionTypeError", [payload, message] =>
    let message ←
      if message = .none then
        pure (Value.text ("Can't resolve " ++ (← p.repr payload) ++ " yielded by a program"))
      else pure message
    keep [message]
    setAttribute p self "payload" payload
  | _, _ => pure ()

/-! ### Methods -/

/-- How an error could be made again: its class, its arguments, and its attributes if it has
any. -/
def errorRecipe (v : Value) (e : ErrorParts) : Act Value := do
  let w ← get
  let slot (key : String) : Option Value := e.slots.lookup key
  let args ← match w.tupleItems e.args, slot "filename", slot "filename2" with
    | [number, text], some file, some other => newTuple [number, text, file, .none, other]
    | [number, text], some file, none => newTuple [number, text, file]
    | _, _, _ => pure e.args
  let own := w.own v
  let cls ← classValue (w.classOf v)
  if own.isEmpty then newTuple [cls, args] else newTuple [cls, args, ← newNamedDict own]

/-- The methods of errors. -/
def errorMember (p : Performer) (r : Nat) (e : ErrorParts) (owner name : String)
    (args : List Value) : Act Value := do
  let self := Value.object r
  match name, args with
  | "with_traceback", [trace] =>
    if trace != .none && !(← get).isExactly trace "traceback" then
      complain .type "__traceback__ must be a traceback or None"
    modifyError r fun e => { e with trace := trace }
    return self
  | "add_note", [.text note] =>
    if !(← exposes p self "__notes__") then setAttribute p self "__notes__" (← newList [])
    let notes ← p.read self "__notes__"
    if !(← get).isInstance notes "list" then
      complain .type "Cannot add note: __notes__ is not a list"
    discard (p.method notes "append" [.text note] [])
    return .none
  | "add_note", [note] =>
    complain .type ("note must be a str, not '" ++ (← get).typeName note ++ "'")
  | "__setstate__", [.none] => return .none
  | "__setstate__", [state] =>
    match ← look state with
    | some (.dict entries) =>
      entries.pairs.forM fun entry => do
        setAttribute p self (← attributeName entry.1.shown) entry.2
      return .none
    | _ => complain .type "state is not a dictionary"
  | "__reduce__", [] => errorRecipe self e
  | "__repr__", [] => return .text (← plainErrorText p e)
  | "__str__", [] => return .text (← plainMessage p e)
  | _, _ => wrongCount owner name args

end Provision.Script
