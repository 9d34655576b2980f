import Provision.Script.Listing
import Provision.Script.StandIn.Basic
import Provision.Text.Address
import Provision.Text.Encoding

/-!
Values in words.

`reprOf` writes a value the way a reader of the script would type it, or, for an object without such
a form, between angle brackets; `strOf` is the plainer form, in which a text is itself and an error
is its message. A class made by a script may have its own way. A collection or record inside itself
is written as dots. Texts that are shown to the outside are rid of addresses (`reprShown`,
`strShown`).
-/

namespace Provision.Script

open Text (bracketed quoted withoutAddresses)

/-! ### Forms -/

/-- A parenthesised, comma-separated list of at least two items, or of one with a comma. -/
def tupleText : List String → String
  | [x] => "(" ++ x ++ ",)"
  | xs => "(" ++ ", ".intercalate xs ++ ")"

/-- A call in words. -/
def callWords (name : String) (args : List String) (named : List (String × String)) : String :=
  name ++ "(" ++ ", ".intercalate (args ++ named.map fun e => e.1 ++ "=" ++ e.2) ++ ")"

/-- Two hexadecimal digits. -/
def hexPair (n : Nat) : String :=
  String.ofList [Nat.digitChar (n / 16), Nat.digitChar (n % 16)]

/-- Bytes in words. -/
def bytesText (items : List Nat) : String :=
  let quote := if items.contains 39 && !items.contains 34 then 34 else 39
  let one (n : Nat) : String :=
    if n = 9 then "\\t" else if n = 10 then "\\n" else if n = 13 then "\\r"
    else if n = 92 || n = quote then "\\" ++ (Char.ofNat n).toString
    else if n < 32 || n ≥ 127 then "\\x" ++ hexPair n
    else (Char.ofNat n).toString
  let mark := (Char.ofNat quote).toString
  "b" ++ mark ++ String.join (items.map one) ++ mark

/-- The fields that a record is written with. -/
def shownFields : String → Option (List String)
  | "Token" | "SubToken" => some ["name"]
  | "Done" | "SubDone" | "Completed" => some ["value"]
  | "ComposedEnvironment" => some ["environments"]
  | "SequenceEnvironment" => some ["sequence"]
  | "Runtime" => some ["defaults"]
  | "ServiceProgram" => some ["services", "factory", "args", "kwargs"]
  | "Cancelled" => some ["reason"]
  | _ => none

/-! ### Stand-ins -/

/-- The text of a stand-in: the name by which it was reached, and what it was made after. -/
def mockText (p : Performer) (m : Mock) : Act String := do
  let name ← mockName p m
  let name := if name = "mock" || name = "mock." then "" else " name=" ++ quoted name
  let spec ← match m.spec with
    | some cls => do
      let shown ← p.repr (← p.read cls "__name__")
      pure ((if m.strict then " spec_set=" else " spec=") ++ shown)
    | none => pure ""
  return "<" ++ m.cls.name ++ name ++ spec ++ ">"

/-- A call with a name and its arguments in words. -/
def signatureText (p : Performer) (name : String) (args : List Value) (named : Named) :
    Act String := do
  let shown ← args.mapM p.repr
  let shownNamed ← named.mapM fun e => return (e.1, ← p.repr e.2)
  return callWords name shown shownNamed

/-- The entries of a dictionary, by texts. -/
def World.namedOf (w : World) (v : Value) : Named :=
  match w.object? v with
  | some (.dict d) => World.namedEntries d
  | _ => []

/-- A recorded call in words. -/
def callText (p : Performer) (v : Value) (items : List Value) : Act String := do
  let w ← get
  match w.ownOf? v "_mock_from_kall", w.ownOf? v "_mock_name" with
  | some (.bool false), name =>
    match name with
    | some (.text n) => return if n.startsWith "()" then "call" ++ n else n
    | _ => return "call"
  | _, _ =>
    let (name, args, named) := callParts items
    let name := match name with
      | .text "" => "call"
      | .text n => if n.startsWith "()" then "call" ++ n else "call." ++ n
      | _ => "call"
    signatureText p name ((World.sequenceItems? (w.object? args)).getD []) (w.namedOf named)

/-! ### Members and classes -/

/-- A member of a class in words. -/
def memberText (owner name : String) : String :=
  let of := " '" ++ name ++ "' of '" ++ owner ++ "' objects>"
  match World.memberClass owner name with
  | "wrapper_descriptor" => "<slot wrapper" ++ of
  | "method_descriptor" | "classmethod_descriptor" => "<method" ++ of
  | "getset_descriptor" => "<attribute" ++ of
  | "member_descriptor" => "<member" ++ of
  | "property" => "<property object>"
  | "builtin_function_or_method" => "<built-in method " ++ name ++ " of type object>"
  | _ => "<function " ++ owner ++ "." ++ name ++ ">"

/-- The name of a class with the place where it is found. -/
def World.placedClass (w : World) : ClassRef → String
  | .known name => placedName name
  | .made r =>
    let home := match w.ownOf? (.object r) "__module__" with
      | some (.text home) => home
      | _ => "__main__"
    let name := match w.ownOf? (.object r) "__qualname__" with
      | some (.text name) => name
      | _ => w.className (.made r)
    home ++ "." ++ name

/-- The members of a class, as they are kept in it. -/
def classEntries (c : ClassRef) (v : Value) : Act Dict := do
  let members ← match c with
    | .made _ => pure []
    | .known name =>
      match classInfo? name with
      | none => pure []
      | some info =>
        info.names.mapM fun key => do
          match info.kind? key with
          | some .constant => return (key, ← classConstant name key)
          | _ => return (key, ← memberValue name key)
  return Bindings.ofPairs (← stamped (textPairs (members ++ (← get).own v)))

/-- The mapping that a value shows: itself, unless it is a class. -/
def shownMapping (v : Value) : Act Value := do
  match (← get).asClass? v with
  | some c => newDictOf (← classEntries c v)
  | none => return v

/-- A method with its object in words. -/
def boundText (p : Performer) (self f : Value) : Act String := do
  let w ← get
  match World.boundClass (w.object? f), w.naming? f with
  | "method-wrapper", some n =>
    return "<method-wrapper '" ++ n.name ++ "' of " ++ w.typeName self ++ " object>"
  | "builtin_function_or_method", some n =>
    return "<built-in method " ++ n.name ++ " of " ++ w.typeName self ++ " object>"
  | _, naming =>
    let name ← match naming with
      | some n => pure n.qualified
      | none => pure "?"
    return "<bound method " ++ name ++ " of " ++ (← p.repr self) ++ ">"

/-! ### Objects -/

/-- What is written for an object inside itself; there is nothing if it is written again. -/
def insideItself? (o : Obj) : Option String :=
  match o with
  | .list _ | .callList _ => some "[...]"
  | .dict _ => some "\x7b...\x7d"
  | .tuple _ => some "(...)"
  | .set frozen _ => some ((if frozen then "frozenset" else "set") ++ "(...)")
  | .instance (.known "SimpleNamespace") => some "namespace(...)"
  | .instance (.known name) => if (shownFields name).isSome then some "..." else none
  | .view _ true _ | .supplied .. => some "..."
  | .error e => if e.kind = .cancelled then some "..." else none
  | _ => none

/-- A record in words: its class and the fields that it is written with. -/
def recordText (p : Performer) (v : Value) (name : String) (fields : List String) :
    Act String := do
  let shown ← fields.mapM fun key => do return (key, ← p.repr (← p.read v key))
  return callWords name [] shown

/-- An object that is nothing but its attributes, in words. -/
def instanceText (p : Performer) (v : Value) (cls : ClassRef) : Act String := do
  let w ← get
  match cls with
  | .made _ => return "<" ++ w.placedClass cls ++ " object>"
  | .known name =>
    match name, shownFields name with
    | name, some fields => recordText p v name fields
    | "Obj", _ => return "<obj " ++ (← p.str (← p.read v "label")) ++ ">"
    | "Duck", _ => return "<duck " ++ (← p.str (← p.read v "label")) ++ ">"
    | "LookupEnv", _ => return "<env " ++ (← p.str (← p.read v "label")) ++ ">"
    | "Recording", _ => return "<env recording>"
    | "Cancellation", _ =>
      return "<Cancellation(cancelled=" ++ (← p.repr (← p.read v "cancelled")) ++ ")>"
    | "SimpleNamespace", _ =>
      let named ← ((w.own v).filter (·.1 != "")).mapM fun e => return (e.1, ← p.repr e.2)
      return callWords "namespace" [] named
    | _, _ => return "<" ++ placedName name ++ " object>"

/-- An error in words, as most kinds are written: with its arguments. -/
def plainErrorText (p : Performer) (e : ErrorParts) : Act String := do
  match (← get).tupleItems e.args with
  | [a] => return e.kind.name ++ "(" ++ (← p.repr a) ++ ")"
  | _ => return e.kind.name ++ (← p.repr e.args)

/-- An error in words. -/
def errorText (p : Performer) (v : Value) (e : ErrorParts) : Act String := do
  if e.kind = .cancelled then recordText p v "Cancelled" ["reason"] else plainErrorText p e

/-- The text of an object, without regard to whether it is inside itself. -/
def objectText (p : Performer) (v : Value) (o : Obj) : Act String := do
  let w ← get
  let all (items : List Value) : Act (List String) := items.mapM p.repr
  match o with
  | .list items => return bracketed (← all items.toList)
  | .callList items => Listing.ofItems p items.toList
  | .tuple items => return tupleText (← all items)
  | .dict entries =>
    let shown ← entries.pairs.mapM fun e => do
      return (← p.repr e.1.shown) ++ ": " ++ (← p.repr e.2)
    return "\x7b" ++ ", ".intercalate shown ++ "\x7d"
  | .set frozen items =>
    let items ← all (items.items.map (·.shown))
    let inner := "\x7b" ++ ", ".intercalate items ++ "\x7d"
    let cls := if frozen then "frozenset" else "set"
    return if items.isEmpty then cls ++ "()" else if frozen then cls ++ "(" ++ inner ++ ")"
      else inner
  | .bytes items => return bytesText items
  | .view aspect ofDict mapping =>
    match ofDict, w.object? mapping with
    | true, some (.dict entries) =>
      let shown ← entries.pairs.mapM fun e => do
        match aspect with
        | .keys => p.repr e.1.shown
        | .values => p.repr e.2
        | .items => return tupleText [← p.repr e.1.shown, ← p.repr e.2]
      return viewClass aspect ofDict ++ "(" ++ bracketed shown ++ ")"
    | _, _ => return viewClass aspect ofDict ++ "(" ++ (← p.repr mapping) ++ ")"
  | .instance cls => instanceText p v cls
  | .error e => errorText p v e
  | .function .. | .declared .. | .relay .. | .prepended .. =>
    return "<function " ++ ((w.naming? v).map (·.qualified)).getD "" ++ ">"
  | .supplied inner args named =>
    signatureText p "functools.partial" (inner :: args) named
  | .member owner name => return memberText owner name
  | .bound self f => boundText p self f
  | .contract _ | .cls _ =>
    return "<class '" ++ ((w.asClass? v).map w.placedClass).getD "" ++ "'>"
  | .classView cls => return "mappingproxy(" ++ (← p.repr (← shownMapping cls)) ++ ")"
  | .mock m => mockText p m
  | .call items => callText p v items
  | .suspended s => return "<" ++ styleClass s.style ++ " object " ++ s.name ++ ">"
  | .symbol _ text => return text
  | _ => return "<" ++ w.placedClass (w.classOf v) ++ " object>"

/-- How deep objects are written inside each other. -/
def descriptionDepth : Nat := 900

/-- The text that the class of a value gives it, whatever scripts put in its place. -/
def nativeRepr (p : Performer) (v : Value) : Act String := do
  match v with
  | .none => return "None"
  | .bool b => return if b then "True" else "False"
  | .int i => return toString i
  | .text s => return quoted s
  | .object r =>
    let w ← get
    match w.object? v with
    | none => return "..."
    | some o =>
      match w.described.contains r, insideItself? o with
      | true, some dots => return dots
      | _, _ =>
        if w.described.length > descriptionDepth then
          complain .recursion
            "maximum recursion depth exceeded while getting the repr of an object"
        set { w with described := r :: w.described }
        let result ← Act.attempt (objectText p v o)
        modify fun w' => { w' with described := w.described }
        Act.ofResult result

/-- What a method that has to give a text gave. -/
def textOf (method : String) (v : Value) : Act String := do
  match v with
  | .text s => return s
  | v =>
    complain .type (method ++ " returned non-string (type " ++ (← get).typeName v ++ ")")

/-- What scripts put in the place of an operator of a value, called with some arguments. -/
def overridden? (p : Performer) (v : Value) (key : String) (args : List Value) :
    Act (Option Value) := do
  let w ← get
  match v, w.object? v with
  | .object r, some (.mock m) =>
    match ← mockOperator? p r m key with
    | some f => return some (← p.call f args [])
    | none => return none
  | _, _ =>
    match w.override? v key with
    | some f => return some (← callOverride p v f args)
    | none => return none

/-- The text of a value as it would be typed. -/
def reprOf (p : Performer) (v : Value) : Act String := do
  match ← overridden? p v "__repr__" [] with
  | some a => textOf "__repr__" a
  | none => nativeRepr p v

/-- The message of an error, as most kinds have it: the only argument, or all of them. -/
def plainMessage (p : Performer) (e : ErrorParts) : Act String := do
  match (← get).tupleItems e.args with
  | [] => return ""
  | [a] => p.str a
  | _ => p.repr e.args

/-- The message of an error. -/
def errorMessage (p : Performer) (v : Value) (e : ErrorParts) : Act String := do
  let slot (key : String) : Option Value := e.slots.lookup key
  let plain : Act String := do
    match e.kind.isA "KeyError", (← get).tupleItems e.args with
    | true, [a] => p.repr a
    | _, _ => plainMessage p e
  match e.kind with
  | .serviceNotProvided => return "Service " ++ (← p.repr (← p.read v "name")) ++ " not provided"
  | .unicodeEncode =>
    match slot "object", slot "start", slot "end" with
    | some (.text s), some (.int start), some (.int stop) =>
      match s.toList[start.toNat]?, stop == start + 1 with
      | some c, true => codec ("encode character '" ++ Text.codeEscape c ++ "'") start stop
      | _, _ => codec "encode characters" start stop
    | _, _, _ => plain
  | .unicodeDecode =>
    match (slot "object").bind (← get).object?, slot "start", slot "end" with
    | some (.bytes items), some (.int start), some (.int stop) =>
      match items[start.toNat]?, stop == start + 1 with
      | some n, true => codec ("decode byte 0x" ++ hexPair n) start stop
      | _, _ => codec "decode bytes" start stop
    | _, _, _ => plain
  | kind =>
    if kind.isA "OSError" then
      match slot "errno", slot "strerror", slot "filename", slot "filename2" with
      | number, text, some file, some other =>
        return (← numbered number text) ++ ": " ++ (← p.repr file) ++ " -> " ++ (← p.repr other)
      | number, text, some file, none =>
        return (← numbered number text) ++ ": " ++ (← p.repr file)
      | some number, some text, none, _ => numbered (some number) (some text)
      | _, _, _, _ => plain
    else plain
where
  /-- What a codec could not do with what is at some places. -/
  codec (what : String) (start stop : Int) : Act String := do
    let slot (key : String) : Act String := p.str ((e.slots.lookup key).getD .none)
    let place := if stop = start + 1 then " in position " ++ toString start
      else " in position " ++ toString start ++ "-" ++ toString (stop - 1)
    return "'" ++ (← slot "encoding") ++ "' codec can't " ++ what ++ place ++ ": " ++
      (← slot "reason")
  /-- The number of an error and what it stands for. -/
  numbered (number text : Option Value) : Act String := do
    return "[Errno " ++ (← p.str (number.getD .none)) ++ "] " ++ (← p.str (text.getD .none))

/-- The plain text that the class of a value gives it. -/
def nativeStr (p : Performer) (v : Value) : Act String := do
  match v, ← look v with
  | .text s, _ => return s
  | _, some (.error e) => errorMessage p v e
  | _, some (.classView cls) => p.str (← shownMapping cls)
  | _, _ => reprOf p v

/-- The plain text of a value: a text is itself, an error its message. -/
def strOf (p : Performer) (v : Value) : Act String := do
  match ← overridden? p v "__str__" [] with
  | some a => textOf "__str__" a
  | none => nativeStr p v

/-- The text of a value as it is shown to the outside. -/
def reprShown (p : Performer) (v : Value) : Act String :=
  return withoutAddresses (← p.repr v)

/-- The plain text of a value as it is shown to the outside. -/
def strShown (p : Performer) (v : Value) : Act String :=
  return withoutAddresses (← p.str v)

end Provision.Script
