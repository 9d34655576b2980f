import Provision.Script.Method.Number

/-!
Methods of whatever can be resumed, of iterators, and of guards.

A method of a synchronous protocol gives what the program yields and raises an end signal when it
has ended. A method of the asynchronous protocol only makes an operation, which is awaited later. A
guard goes through the generator that it keeps: to its first stop on entry, and to its end on
leaving.
-/

namespace Provision.Script

/-! ### Suspended objects -/

/-- Closes what is still suspended, before it is given up; nobody hears of an error. -/
def finalize (p : Performer) (r : Nat) : Act Unit := do
  let s ← suspendedAt r
  let ready := s.stage = .suspended || (s.stage = .created && s.style = .generator)
  if ready && s.style != .asyncGenerator then
    match ← Act.attempt (shutDown p r) with
    | .error .spent => throw .spent
    | _ => pure ()

/-- The methods of generators, asynchronous generators and coroutines. -/
def suspendedMember (p : Performer) (r : Nat) (s : Suspended) (name : String)
    (args : List Value) : Act Value := do
  match name, args with
  | "send", [v] => methodResult s.style (← sendTo p r v)
  | "throw", args =>
    checkThrowCount "throw" args
    methodResult s.style (← throwTo p r (← thrownBy p args) true)
  | "close", [] => shutDown p r; return .none
  | "asend", [v] => newOperation r (.asend v)
  | "athrow", args => newOperation r (.athrow args)
  | "aclose", [] => newOperation r .aclose
  | "__del__", [] => finalize p r; return .none
  | _, _ => wrongCount (styleClass s.style) name args

/-- The methods of operations of asynchronous generators, and of what iterates a coroutine. -/
def awaitedMember (p : Performer) (self : Value) (cls name : String) (args : List Value) :
    Act Value := do
  match name, args with
  | "send", [v] => methodResult .generator (← p (.advance self v))
  | "throw", args =>
    checkThrowCount "throw" args
    methodResult .generator (← p (.throwInto self (← thrownBy p args) true))
  | "close", [] => closeAwaited p self; return .none
  | _, _ => wrongCount cls name args

/-! ### Iterators -/

/-- A number brought into a range. -/
def clamped (least most n : Int) : Int := if n < least then least else if n > most then most else n

/-- How many items an iteration has left, if that is known. -/
def itemsLeft? (p : Performer) : Cursor → Act (Option Nat)
  | .items all i => return some (all.size - i)
  | .list r i => do return some (((World.listItems? (← look (.object r))).map (·.size)).getD 0 - i)
  | .listBack r n => do
    let size := ((World.listItems? (← look (.object r))).map (·.size)).getD 0
    return some (if size < n then 0 else n)
  | .dict r _ _ _ size left => do
    let now := ((entriesAt? (← look (.object r))).map (·.size)).getD 0
    return some (if now = size then left else 0)
  | .places r _ size left => do
    let now := match ← look (.object r) with
      | some (.set _ items) => items.size
      | _ => 0
    return some (if now = size then left else 0)
  | .lookups v i => do
    match ← Act.attempt (itemCount p v) with
    | .ok n => return some (n - i)
    | .error e => if ← isKind e "TypeError" then return none else throw e
  | .lookupsBack v n => do return some (if (← itemCount p v) < n then 0 else n)

/-- An iteration at another place, counted from the beginning of what is gone through. -/
def Cursor.moveTo (p : Performer) (back : Bool) (place : Int) : Cursor → Act Cursor
  | .items all _ =>
    let size : Int := Int.ofNat all.size
    return .items all
      (if back then size - 1 - clamped (-1) (size - 1) place else clamped 0 size place).toNat
  | .list r _ => do
    let size := ((World.listItems? (← look (.object r))).map (·.size)).getD 0
    return .list r (clamped 0 size place).toNat
  | .listBack r _ => do
    let size : Int := Int.ofNat (((World.listItems? (← look (.object r))).map (·.size)).getD 0)
    return .listBack r (clamped (-1) (size - 1) place + 1).toNat
  | .lookups v _ => return .lookups v place.toNat
  | .lookupsBack v _ => do
    let size : Int := Int.ofNat (← itemCount p v)
    return .lookupsBack v (clamped (-1) (size - 1) place + 1).toNat
  | c => return c

/-- How an iterator could be made again: a function, what it is called with, and the place. -/
def iteratorRecipe (p : Performer) (cls : String) (cursor : Option Cursor) : Act Value := do
  let builtIn (name : String) : Act Value :=
    sharedObject ("function " ++ name)
      (alloc (.symbol "builtin_function_or_method" ("<built-in function " ++ name ++ ">")))
  let recipe (f v : Value) (place : Int) : Act Value := do
    newTuple [f, ← newTuple [v], .int place]
  let again ← builtIn "iter"
  let back ← classValue (.known "reversed")
  let joined (items : List Value) : Value := .text (String.join (items.filterMap World.text?))
  match cursor with
  | some (.items all i) =>
    let items := if cls = "reversed" then all.toList.reverse else all.toList
    let isText := (items.all fun v => (World.text? v).isSome) && cls != "tuple_iterator"
    let whole ← if isText then pure (joined items) else newTuple items
    if cls = "reversed" then recipe back whole (Int.ofNat items.length - 1 - i)
    else recipe again whole i
  | some (.list r i) => recipe again (.object r) i
  | some (.listBack r n) => recipe back (.object r) (Int.ofNat n - 1)
  | some (.lookups v i) => recipe again v i
  | some (.lookupsBack v n) => recipe back v (Int.ofNat n - 1)
  | some c =>
    let copy ← newIterator cls c
    newTuple [again, ← newTuple [← newList (← itemsOf p copy)]]
  | none =>
    let empty ←
      if cls.startsWith "str" then pure (Value.text "")
      else if ["tuple_iterator", "bytes_iterator", "iterator", "reversed"].contains cls then
        newTuple []
      else newList []
    newTuple [if cls = "reversed" then back else again, ← newTuple [empty]]

/-- The methods of iterators. -/
def iteratorMember (p : Performer) (r : Nat) (cls : String) (cursor : Option Cursor)
    (name : String) (args : List Value) : Act Value := do
  match name, args with
  | "__length_hint__", [] =>
    match cursor with
    | none => return .int 0
    | some c =>
      match ← itemsLeft? p c with
      | some n => return .int n
      | none => notImplemented
  | "__setstate__", [place] =>
    let place ← wholeOf p place
    match cursor with
    | some c => put r (.iterator cls (some (← c.moveTo p (cls = "reversed") place)))
    | none => pure ()
    return .none
  | "__reduce__", [] => iteratorRecipe p cls cursor
  | _, _ => wrongCount cls name args

/-! ### Guards -/

/-- The generator of a guard: it gives way once, and then checks that a sequence was used up. -/
def consumeCode : Function :=
  { name := "consume"
    style := .generator
    params := [("self", none)]
    rest := none
    body := [
      .yield none .none,
      .cond (.method (.var "self") "consumed" [] []) [] [
        .eval (some "names") (.list []),
        .forEach "item" (.attribute (.var "self") "sequence") [
          .eval (some "key") (.library "getitem" [.var "item", .int 0] []),
          .cond (.library "isinstance" [.var "key", .text "Token"] [])
            [.eval (some "key") (.attribute (.var "key") "name")] [],
          .eval none (.library "append" [.var "names", .var "key"] [])],
        .raise (.library "AssertionError" [
          .method (.text (leftoverText "\x7b0\x7d")) "format" [.var "names"] []]
          [])]] }

/-- The function behind the guards of sequences. -/
def consumeFunction : Act Value :=
  sharedObject "consume" <|
    alloc (.function consumeCode []
      ⟨"consume", "SequenceEnvironment.consume", .none, .text "effectwire.testing", none⟩)

/-- Gives a guard the generator that it goes through, and what it was made of. -/
def setUpGuard (p : Performer) (self : Nat) (f args named : Value) : Act Unit := do
  let generator ← p.call f (← itemsOf p args) (← namedOf p named)
  let doc := (← readable? p f "__doc__").getD .none
  [("gen", generator), ("func", f), ("args", args), ("kwds", named), ("__doc__", doc)].forM
    fun e => putOwn self e.1 e.2

/-- A new guard. -/
def newGuard (p : Performer) (f : Value) (args : List Value) (named : Named) : Act Value := do
  let guard ← newInstance "_GeneratorContextManager" []
  match guard with
  | .object r => setUpGuard p r f (← newTuple args) (← newNamedDict named)
  | _ => pure ()
  return guard

/-- Enters what a guard is for; what it was made of is not needed from then on. -/
def enterGuard (p : Performer) (self : Value) : Act Value := do
  ["args", "kwds", "func"].forM fun key => deleteAttribute p self key
  match ← nextOf p (← p.read self "gen") with
  | some v => return v
  | none => complain .runtime "generator didn't yield"

/-- Leaves what a guard is for because of an error: whether the error is not to go on. -/
def leaveByError (p : Performer) (self cls error trace : Value) : Act Value := do
  let error ← if error = .none then p.call cls [] [] else pure error
  match ← Act.attempt (p.method (← p.read self "gen") "throw" [cls, error, trace] []) with
  | .ok _ => complain .runtime "generator didn't stop after throw()"
  | .error .spent => throw .spent
  | .error e =>
    match ← e.settled with
    | .raised n r =>
      let w ← get
      let same := Value.object r == error
      let wraps := match w.errorAt? r with
        | some parts =>
          w.isInstance error "StopIteration" && parts.kind.isA "RuntimeError" && parts.cause == error
        | none => false
      if same && n != .ended then modifyError r fun parts => { parts with trace := trace }
      match WayOut.told (n == .ended) same wraps with
      | .suppressed => return .bool true
      | .itself => return .bool false
      | .replaced => throw (.raised n r)
    | e => throw e

/-- The methods of guards. -/
def guardMember (p : Performer) (self : Value) (name : String) (args : List Value) :
    Act Value := do
  match name, args, self with
  | "__init__", [f, args, named], .object r => setUpGuard p r f args named; return .none
  | "_recreate_cm", [], _ =>
    p.call (← p.read self "__class__")
      [← p.read self "func", ← p.read self "args", ← p.read self "kwds"] []
  | "__enter__", [], _ => enterGuard p self
  | "__exit__", [.none, _, _], _ =>
    match ← nextOf p (← p.read self "gen") with
    | none => return .bool false
    | some _ => complain .runtime "generator didn't stop"
  | "__exit__", [cls, error, trace], _ => leaveByError p self cls error trace
  | _, _, _ => wrongCount "_GeneratorContextManager" name args

end Provision.Script
