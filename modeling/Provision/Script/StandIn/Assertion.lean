import Provision.Script.StandIn.Calling

/-!
Assertions on stand-ins: whether they were called, or their calls awaited, as expected.

A call that is expected and the calls that were made are compared by what `callMatcher` makes of
them. If the stand-in has the parameters of a contract, two calls are equal if they bind these to
the same arguments, and a call that does not fit them is equal to no other: it becomes an error,
which is named as the cause when the assertion fails.
-/

namespace Provision.Script

/-! ### Fitting calls to parameters -/

/-- Arguments as they go to parameters: by position, and from the first parameter on that was left
out, by name. The words say why they do not fit. -/
def bindCall : List (String × Bool) → Bool → Bool → List Value → Named →
    Except String (List Value × Named)
  | [], takesRest, takesNamed, args, named =>
    if !args.isEmpty && !takesRest then .error "too many positional arguments"
    else
      match named with
      | (name, _) :: _ =>
        if takesNamed then .ok (args, named)
        else .error ("got an unexpected keyword argument '" ++ name ++ "'")
      | [] => .ok (args, [])
  | (name, _) :: params, takesRest, takesNamed, a :: args, named =>
    if (named.lookup name).isSome then .error ("multiple values for argument '" ++ name ++ "'")
    else (bindCall params takesRest takesNamed args named).map fun r => (a :: r.1, r.2)
  | params, _, takesNamed, [], named => byName params takesNamed named true
where
  /-- Takes the arguments of the parameters by name; those that directly follow the ones by position
  count as such. -/
  byName : List (String × Bool) → Bool → Named → Bool → Except String (List Value × Named)
    | [], takesNamed, named, _ =>
      match named with
      | (name, _) :: _ =>
        if takesNamed then .ok ([], named)
        else .error ("got an unexpected keyword argument '" ++ name ++ "'")
      | [] => .ok ([], [])
    | (name, optional) :: params, takesNamed, named, direct =>
      match named.lookup name with
      | some a =>
        (byName params takesNamed (named.filter fun e => e.1 != name) direct).map fun r =>
          if direct then (a :: r.1, r.2) else (r.1, (name, a) :: r.2)
      | none =>
        if optional then byName params takesNamed named false
        else .error ("missing a required argument: '" ++ name ++ "'")

/-- The parameters for a call that is recorded under a path of names. -/
def signatureAt (w : World) : List String → Mock → Option Signature → Option Signature
  | [], _, found => found
  | name :: rest, m, found =>
    match (m.children.lookup name).bind fun c => c.bind w.object? with
    | some (.mock child) => signatureAt w rest child child.signature
    | _ => found

/-- The parameters for a call that is recorded under a name. -/
def signatureFor (p : Performer) (m : Mock) (name : Value) : Act (Option Signature) := do
  match name, ← p.truth name with
  | _, false => return m.signature
  | .text name, true =>
    return signatureAt (← get) ((name.replace "()" "").splitOn ".") m none
  | name, true =>
    let plain ← p.method name "replace" [.text "()", .text ""] []
    let names ← itemsOf p (← p.method plain "split" [.text "."] [])
    return signatureAt (← get) (names.filterMap World.text?) m none

/-- The items of a call, which have to be so many. -/
def unpackCall (p : Performer) (call : Value) : Act (Value × Value × Value) := do
  match ← itemsOf p call with
  | [args, named] => return (.text "", args, named)
  | [name, args, named] => return (name, args, named)
  | items =>
    complain .value <|
      if items.length < 3 then
        "not enough values to unpack (expected 3, got " ++ toString items.length ++ ")"
      else "too many values to unpack (expected 3)"

/-- What a call is compared by: the call itself, or if there are parameters to fit, the arguments
as they go to them; a call that does not fit becomes an error. -/
def callMatcher (p : Performer) (r : Nat) (call : Value) : Act Value := do
  let w ← get
  match w.object? (.object r) with
  | some (.mock m) =>
    let signature ← match World.sequenceItems? (w.object? call), w.isInstance call "tuple" with
      | some (name :: _ :: _ :: _), true => signatureFor p m name
      | _, _ => pure m.signature
    match signature with
    | none => return call
    | some s =>
      let (name, args, named) ← unpackCall p call
      let fitted ← Act.attempt do
        let args ← itemsOf p args
        let named ← namedOf p named
        match bindCall s.params s.takesRest s.takesNamed args named with
        | .ok (args, named) =>
          let args ← newTuple args
          let named ← newNamedDict named
          let parts ← newTuple [name, args, named]
          allocWith (.call [.text "", parts, ← newNamedDict []])
            [("_mock_name", .text "()"), ("_mock_parent", .none), ("_mock_from_kall", .bool true)]
        | .error why => complain .type why
      match fitted with
      | .ok v => return v
      | .error e =>
        match ← isKind e "TypeError", ← e.object with
        | true, some problem =>
          modifyError problem fun e => { e with trace := .none }
          return .object problem
        | _, _ => throw e
  | _ => return call
where
  /-- The named arguments of a call. -/
  namedOf (p : Performer) (v : Value) : Act Named := do
    let entries ← entriesOf p v
    entries.mapM fun
      | (⟨_, .text s, _⟩, a) => pure (s, a)
      | _ => complain .type "keywords must be strings"

/-- What an expected call is compared by. -/
def expectedMatcher (p : Performer) (r : Nat) (expected : CallArgs) : Act Value := do
  callMatcher p r (← newCall none (← newTuple expected.1) (← newNamedDict expected.2))

/-- Whether a value is an error. -/
def isErrorObject (w : World) (v : Value) : Bool := w.isInstance v "Exception"

/-- Fails with a message; an error that a call became is the cause. -/
def failWith {α : Type} (message : String) (cause : Value) : Act α := do
  let r ← makeError .assertion [.text message]
  chainContext r
  match cause with
  | .object _ => modifyError r fun e => { e with cause := cause, suppress := true }
  | _ => modifyError r fun e => { e with suppress := true }
  leaveTrace r
  throw (.raised .ordinary r)

/-! ### Words -/

/-- The name by which a stand-in is spoken of. -/
def spokenName (p : Performer) (r : Nat) : Act Value := do
  match ← look (.object r) with
  | some (.mock m) => if ← p.truth m.name then return m.name else return .text "mock"
  | _ => return .text "mock"

/-- A call of a stand-in in words. -/
def spokenCall (p : Performer) (r : Nat) (args : List Value) (named : Named) : Act String := do
  signatureText p (← p.str (← spokenName p r)) args named

/-- The calls of a stand-in and of those reached from it, in words. -/
def callsText (p : Performer) (r : Nat) (start : String) : Act String := do
  let calls ← logged r "mock_calls"
  if ← p.truth calls then return "\n" ++ start ++ ": " ++ (← p.repr calls) ++ "."
  else return ""

/-! ### Assertions -/

/-- What an assertion asks of the calls of a stand-in, or of its awaits. -/
inductive Expectation where
  | some
  | none
  | once
  /-- The last one had the expected arguments. -/
  | matching
  /-- There was just one, with the expected arguments. -/
  | onceMatching
  /-- One of them had the expected arguments. -/
  | any

/-- What is said of a call that was not the expected one. What is told is always the last call, even
if another one was awaited last. -/
def failureText (p : Performer) (r : Nat) (noun expected : String) : Act String := do
  let actual ← match ← itemsOf p (← logged r "call_args") with
    | [args, named] => do spokenCall p r (← itemsOf p args) ((← get).namedOf named)
    | _ => complain .type "missing required positional argument: 'kwargs'"
  return "expected " ++ noun ++ " not found.\nExpected: " ++ expected ++ "\nActual: " ++ actual

/-- Fails if the call remembered under a name is not the expected one. -/
def assertLast (p : Performer) (r : Nat) (noun key unused : String) (expected : CallArgs) :
    Act Unit := do
  match ← logged r key with
  | .none => complain .assertion unused
  | last =>
    let wanted ← expectedMatcher p r expected
    let actual ← callMatcher p r last
    if ← p.truth (← p.compare .ne actual wanted) then
      let text ← failureText p r noun (← spokenCall p r expected.1 expected.2)
      failWith text (if isErrorObject (← get) wanted then wanted else .none)

/-- Whether a call is among others, part by part. -/
def amongCalls (p : Performer) (wanted : Value) (calls : List Value) : Act Bool := do
  let parts ← itemsOf p wanted
  calls.anyM fun c => do
    let n ← itemCount p c
    if n != parts.length then complain .assertion ""
    let pairs := parts.zip (← itemsOf p c)
    let same ← pairs.mapM fun e => do p.truth (← p.compare .eq e.1 e.2)
    return same.all id

/-- Fails if none of the calls remembered under a name is the expected one. -/
def assertAny (p : Performer) (r : Nat) (noun key : String) (expected : CallArgs) : Act Unit := do
  let wanted ← expectedMatcher p r expected
  let calls ← mapOf p (← logged r key) (callMatcher p r)
  let cause := if isErrorObject (← get) wanted then wanted else .none
  let found ← if cause != .none then pure false else amongCalls p wanted calls
  if !found then
    failWith ((← spokenCall p r expected.1 expected.2) ++ " " ++ noun ++ " not found") cause

/-- Whether what a stand-in remembers under a name is equal to a number. -/
def countIs (p : Performer) (r : Nat) (key : String) (n : Int) : Act Bool := do
  p.truth (← p.compare .eq (← logged r key) (.int n))

/-- Checks how a stand-in was called. -/
def assertCalls (p : Performer) (r : Nat) (e : Expectation) (expected : CallArgs) : Act Unit := do
  let should (text : String) : Act Unit := do
    complain .assertion ("Expected '" ++ (← p.str (← spokenName p r)) ++ "' to " ++ text)
  let counted (text : String) : Act Unit := do
    let count ← p.str (← logged r "call_count")
    should (text ++ " Called " ++ count ++ " times." ++ (← callsText p r "Calls"))
  let last : Act Unit := do
    let text ← spokenCall p r expected.1 expected.2
    assertLast p r "call" "call_args"
      ("expected call not found.\nExpected: " ++ text ++ "\nActual: not called.") expected
  match e with
  | .some => if ← countIs p r "call_count" 0 then should "have been called."
  | .none => if !(← countIs p r "call_count" 0) then counted "not have been called."
  | .once => if !(← countIs p r "call_count" 1) then counted "have been called once."
  | .matching => last
  | .onceMatching =>
    if !(← countIs p r "call_count" 1) then counted "be called once."
    last
  | .any => assertAny p r "call" "call_args_list" expected

/-- Checks how the calls of a stand-in were awaited. -/
def assertAwaits (p : Performer) (r : Nat) (e : Expectation) (expected : CallArgs) :
    Act Unit := do
  let should (text : String) : Act Unit := do
    complain .assertion ("Expected " ++ (← p.str (← spokenName p r)) ++ " to " ++ text)
  let counted (text : String) : Act Unit := do
    let count ← p.str (← logged r "await_count")
    should (text ++ " Awaited " ++ count ++ " times.")
  let last : Act Unit := do
    let text ← spokenCall p r expected.1 expected.2
    assertLast p r "await" "await_args" ("Expected await: " ++ text ++ "\nNot awaited") expected
  match e with
  | .some => if ← countIs p r "await_count" 0 then should "have been awaited."
  | .none => if !(← countIs p r "await_count" 0) then counted "not have been awaited."
  | .once => if !(← countIs p r "await_count" 1) then counted "have been awaited once."
  | .matching => last
  | .onceMatching =>
    if !(← countIs p r "await_count" 1) then counted "have been awaited once."
    last
  | .any => assertAny p r "await" "await_args_list" expected

/-! ### Several calls -/

/-- Takes each of some items out of a list; the items that were not found, and what is left. -/
def takeOut (p : Performer) : List Value → List Value → Act (List Value × List Value)
  | [], left => return ([], left)
  | a :: rest, left => do
    match ← placeAmong left 0 a with
    | some i => takeOut p rest (left.eraseIdx i)
    | none =>
      let (missing, left) ← takeOut p rest left
      return (a :: missing, left)
where
  /-- The place of an item in a list. -/
  placeAmong : List Value → Nat → Value → Act (Option Nat)
    | [], _, _ => return none
    | b :: rest, i, a => do if ← p.equal b a then return some i else placeAmong rest (i + 1) a

/-- What is said of calls that do not fit any parameters. -/
def processingText (p : Performer) (what : String) (wanted : List Value) : Act String := do
  let w ← get
  let errors := wanted.map fun v => if isErrorObject w v then v else .none
  return "Error processing expected " ++ what ++ ".\nErrors: " ++ (← p.repr (← newList errors))

/-- Checks that a stand-in was called, or its calls awaited, in some ways in a row. -/
def assertHas (p : Performer) (r : Nat) (awaits : Bool) (calls : Value) (anyOrder : Bool) :
    Act Unit := do
  let wanted ← mapOf p calls (callMatcher p r)
  let w ← get
  let cause := (wanted.find? (isErrorObject w)).getD .none
  let key := if awaits then "await_args_list" else "mock_calls"
  let all ← mapOf p (← logged r key) (callMatcher p r)
  if !anyOrder then
    if !(← isPart p wanted all) then
      let noun := if awaits then "awaits" else "calls"
      let problem ← if cause = .none then pure ((if awaits then "Awaits" else "Calls") ++
          " not found.")
        else processingText p noun wanted
      let expected ← p.repr (← alloc (.callList (← itemsOf p calls).toArray))
      let actual ←
        if awaits then do pure ("\nActual: " ++ (← p.str (← logged r key)))
        else do
          let text ← callsText p r "Actual"
          pure (String.ofList (text.toList.reverse.dropWhile (· = '.')).reverse)
      failWith (problem ++ "\nExpected: " ++ expected ++ actual) cause
  else
    let (missing, left) ← takeOut p wanted all
    if !missing.isEmpty then
      let missing ← p.repr (← newTuple missing)
      let message ←
        if awaits then pure (missing ++ " not all found in await list")
        else do
          let name ← p.repr (← spokenName p r)
          pure (name ++ " does not contain all of " ++ missing ++ " in its call list, found " ++
            (← p.repr (← newList left)) ++ " instead")
      failWith message cause

end Provision.Script
