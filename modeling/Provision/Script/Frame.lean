import Provision.Script.Evaluate

/-!
Frames: running the body of a script function up to its next suspension.

A frame's pending statements are a stack. The innermost block supplies the next statement
(`beginStatement`); a compound statement leaves a marker on the stack, which says what to do when
control comes back to it, in the ordinary way or because of an error, a return or a jump
(`comeBack`).
-/

namespace Provision.Script

namespace Frame

/-- Assigns a local variable, if there is one to assign. -/
def assign (f : Frame) (target : Option String) (v : Value) : Frame :=
  match target with
  | some name => { f with locals := Bindings.insert name v f.locals }
  | none => f

/-- Puts a marker on the stack. -/
def push (f : Frame) (k : Pending) : Frame := { f with pending := k :: f.pending }

/-- The errors that are being handled in this frame, the latest first. -/
def handling (f : Frame) : List Nat := (Body.script f).handling

end Frame

/-- What became of a statement: the frame goes on with a completion, or it is suspended. -/
inductive Course where
  | on (f : Frame) (c : Completion)
  | suspended (reply : Reply) (f : Frame)

/-- Does something inside a frame; a fault becomes the completion of the statement. -/
def guarded (f : Frame) (x : Act Course) : Act Course := do
  match ← Act.attempt x with
  | .ok course => return course
  | .error .spent => throw .spent
  | .error e => return .on f (.raised (← e.settled))

/-- Begins the part of a statement that is run on every way out. -/
def runFinally (f : Frame) (cleanup : List Stmt) (c : Completion) : Course :=
  if cleanup.isEmpty then .on f c
  else .on ((f.push (.lastly c)).push (.block cleanup)) .normal

/-- Goes on from something awaited. -/
def afterAwait (f : Frame) (target : Option String) (awaited : Value) (reply : Reply) : Course :=
  match reply.awaited with
  | .waits m => .suspended (.waits m) { f with point := .await target awaited }
  | reply => .on (f.assign target reply.value) .normal

/-- Goes on from a program that the control was handed over to. -/
def afterDelegate (f : Frame) (target : Option String) (inner : Value) : Reply → Course
  | .returns v => .on (f.assign target v) .normal
  | reply => .suspended reply { f with point := .delegate target inner }

/-- What the class of a value has in the place of an operator, ready to be called. -/
def operatorOf? (p : Performer) (v : Value) (key : String) : Act (Option Value) := do
  let w ← get
  match v, w.object? v with
  | .object r, some (.mock m) => mockOperator? p r m key
  | _, _ =>
    match w.override? v key, w.classOf v with
    | some f, _ => if bindsToObject w f then return some (← alloc (.bound v f)) else return some f
    | none, .known cls =>
      match definingClass? cls key with
      | some (owner, _) => return some (← alloc (.bound v (← memberValue owner key)))
      | none => return none
    | none, .made _ => return none

/-- Enters what guards a body by whose end a sequence has to be used up: how it is left again. -/
def enterBody (p : Performer) (sequence : Value) : Act Value := do
  let guard ← p.method sequence "consume" [] []
  let refusal := "'" ++ (← get).typeName guard ++
    "' object does not support the context manager protocol"
  match ← operatorOf? p guard "__enter__" with
  | none => complain .type refusal
  | some enter =>
    match ← operatorOf? p guard "__exit__" with
    | none => complain .type (refusal ++ " (missed __exit__ method)")
    | some leave =>
      discard (p.call enter [] [])
      return leave

/-- Leaves a guarded body because of an error: whether the error is not to go on. -/
def leaveBody (p : Performer) (leave : Value) (e : Fault) : Act Bool := do
  match ← e.object with
  | none => throw e
  | some r =>
    let error := Value.object r
    let w ← get
    let cls ← classValue (w.classOf error)
    let trace := ((w.errorAt? r).map (·.trace)).getD .none
    whileHandling (r :: w.handled) do p.truth (← p.call leave [cls, error, trace] [])

/-- Goes on with an iteration. -/
def iterate (p : Performer) (f : Frame) (name : String) (iterator : Value) (body : List Stmt) :
    Act Course := do
  match ← nextOf p iterator with
  | some v =>
    return .on (((f.assign (some name) v).push (.iteration name iterator body)).push (.block body))
      .normal
  | none => return .on f .normal

/-- Goes on with a loop. -/
def loopOn (p : Performer) (f : Frame) (test : Expr) (body : List Stmt) : Act Course := do
  if ← truthOf p (← evaluate p f.locals test) then
    return .on ((f.push (.loop test body)).push (.block body)) .normal
  else return .on f .normal

/-- Begins a statement. -/
def beginStatement (p : Performer) (f : Frame) : Stmt → Act Course
  | .eval target e => do
    let v ← evaluate p f.locals e
    return .on (f.assign target v) .normal
  | .await target e => do
    let awaited ← awaitedFor p (← evaluate p f.locals e)
    return afterAwait f target awaited (← p (.advance awaited .none))
  | .yield target e => do
    let v ← evaluate p f.locals e
    return .suspended (.yields v) { f with point := .yield target }
  | .delegate target e => do
    let v ← evaluate p f.locals e
    if (← get).isExactly v "coroutine" then
      complain .type "cannot 'yield from' a coroutine object in a non-coroutine generator"
    let inner ← iteratorOf p v
    return afterDelegate f target inner (← p (.advance inner .none))
  | .ret e => do
    if f.style = .asyncGenerator then return .on f (.returned .none)
    return .on f (.returned (← evaluate p f.locals e))
  | .note e => do
    note p (← evaluate p f.locals e)
    return .on f .normal
  | .raise e => do raiseValue p (← evaluate p f.locals e)
  | .reraise => do
    let w ← get
    match w.handled with
    | e :: _ => throw (.raised (((w.errorAt? e).map (·.kind.nature)).getD .ordinary) e)
    | [] => complain .runtime "No active exception to reraise"
  | .attempt body handlers otherwise cleanup =>
    return .on ((f.push (.attempt handlers otherwise cleanup)).push (.block body)) .normal
  | .cond test yes no => do
    let b ← truthOf p (← evaluate p f.locals test)
    return .on (f.push (.block (if b then yes else no))) .normal
  | .forEach name items body => do
    iterate p f name (← iteratorOf p (← evaluate p f.locals items)) body
  | .loop test body => loopOn p f test body
  | .leave => return .on f .left
  | .next => return .on f .continued
  | .consume sequence body => do
    let leave ← enterBody p (← evaluate p f.locals sequence)
    return .on ((f.push (.consume leave)).push (.block body)) .normal

/-- The first handler for an error. -/
def handlerFor (e : Fault) : List Handler → Act (Option Handler)
  | [] => return none
  | h :: rest => do
    match (← get).kindOf e with
    | some kind => if h.1.any kind.isA then return some h else handlerFor e rest
    | none => return none

/-- Control comes back to a marker that was taken off the stack. -/
def comeBack (p : Performer) (f : Frame) : Pending → Completion → Act Course
  | .block _, c => return .on f c
  | .attempt handlers _ cleanup, .raised e => do
    match ← handlerFor e handlers with
    | some (_, name, body) =>
      let r := (← e.object).getD 0
      let f := (f.assign name (.object r)).push (.handling r cleanup)
      return .on (f.push (.block body)) .normal
    | none => return runFinally f cleanup (.raised e)
  | .attempt _ otherwise cleanup, .normal =>
    return .on ((f.push (.otherwise cleanup)).push (.block otherwise)) .normal
  | .attempt _ _ cleanup, c => return runFinally f cleanup c
  | .handling _ cleanup, c => return runFinally f cleanup c
  | .otherwise cleanup, c => return runFinally f cleanup c
  | .lastly before, .normal => return .on f before
  | .lastly _, c => return .on f c
  | .iteration name iterator body, .normal => iterate p f name iterator body
  | .iteration name iterator body, .continued => iterate p f name iterator body
  | .iteration .., .left => return .on f .normal
  | .iteration .., c => return .on f c
  | .loop test body, .normal => loopOn p f test body
  | .loop test body, .continued => loopOn p f test body
  | .loop .., .left => return .on f .normal
  | .loop .., c => return .on f c
  | .consume leave, .raised e => do
    return .on f (if ← leaveBody p leave e then .normal else .raised e)
  | .consume leave, c => do
    discard (p.call leave [.none, .none, .none] [])
    return .on f c

/-- Goes on with a frame until it is suspended or at its end, in at most so many steps. The errors
being handled are the frame's own, and then those of whoever resumed it. -/
def runFrame (p : Performer) (outer : List Nat) : Nat → Frame → Completion → Act (Reply × Frame)
  | 0, _, _ => throw .spent
  | fuel + 1, f, c => do
    let course ← match c, f.pending with
      | .normal, [] => return (.returns .none, f)
      | .returned v, [] => return (.returns v, f)
      | .raised e, [] => throw e
      | _, [] => return (.returns .none, f)
      | .normal, .block (s :: rest) :: ks => do
        let f := { f with pending := .block rest :: ks }
        modify fun w => { w with handled := f.handling ++ outer }
        guarded f (beginStatement p f s)
      | c, k :: ks => do
        let f := { f with pending := ks }
        modify fun w => { w with handled := f.handling ++ outer }
        guarded f (comeBack p f k c)
    match course with
    | .on f c => runFrame p outer fuel f c
    | .suspended reply f => return (reply, f)

/-- Goes on with a course. -/
def followCourse (p : Performer) (outer : List Nat) : Course → Act (Reply × Frame)
  | .on f c => runFrame p outer stepLimit f c
  | .suspended reply f => return (reply, f)

/-- Resumes a frame at the point at which it is suspended. What it waits for gets the value that is
sent; an error is raised at that point. -/
def resumeFrame (p : Performer) (outer : List Nat) (f : Frame) (how : Resumption Value Fault) :
    Act (Reply × Frame) := do
  followCourse p outer <| ← match f.point, how with
    | .start, .send _ => pure (.on f .normal)
    | .start, .throw e => pure (.on { f with pending := [] } (.raised e))
    | .yield target, .send v => pure (.on (f.assign target v) .normal)
    | .await target awaited, .send v =>
      guarded f do return afterAwait f target awaited (← p (.advance awaited v))
    | .delegate target inner, .send v =>
      guarded f do return afterDelegate f target inner (← p (.advance inner v))
    | _, .throw e => pure (.on f (.raised e))

/-- Goes on with a frame when what it waited for has come to an outcome. -/
def proceedFrame (p : Performer) (outer : List Nat) (f : Frame) (outcome : Except Fault Value) :
    Act (Reply × Frame) := do
  let target := match f.point with
    | .await target _ => target
    | .delegate target _ => target
    | _ => none
  followCourse p outer <| match outcome with
    | .ok v => .on (f.assign target v) .normal
    | .error e => .on f (.raised e)

end Provision.Script
