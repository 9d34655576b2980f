import Provision.Script.Cooperation

/-!
The event loop: tasks that take turns.

The loop has one queue and goes in iterations: each gives a turn to whatever is in the queue when it
begins. A task that gives way goes to the end of the queue. A task that waits for a group of tasks
is put into the queue again by the turn that follows the end of the group's last member. Nothing
else gives way. When the task that the loop runs for has ended, the loop stops after the iteration
that notices it; what is in the queue then stays there until the loop runs again.
-/

namespace Provision.Script

/-- Changes the event loop. -/
def modifyLoop (f : EventLoop → EventLoop) : Act Unit :=
  modify fun w => { w with loop := f w.loop }

/-- Changes a task. -/
def modifyTask (id : Nat) (f : Task → Task) : Act Unit :=
  modifyLoop fun l => { l with tasks := l.tasks.modify id f }

/-- Changes a group. -/
def modifyGroup (g : Nat) (f : Group → Group) : Act Unit :=
  modifyLoop fun l => { l with groups := l.groups.modify g f }

/-- Puts a turn at the end of the queue. -/
def enqueue (t : Turn) : Act Unit := modifyLoop fun l => { l with queue := l.queue ++ [t] }

/-- A new task, which is put into the queue. -/
def newTask (code : Value) (groups : List Nat) (stops : Bool) : Act Nat := do
  let id := (← get).loop.tasks.size
  modifyLoop fun l => { l with tasks := l.tasks.push ⟨code, groups, none, false, none, stops, none⟩ }
  enqueue (.task id)
  return id

/-- The result of a task, if it has one. -/
def taskResult (id : Nat) : Act (Option (Except Fault Value)) := do
  return ((← get).loop.tasks[id]?).bind (·.result)

/-- Gives a task its result, and lets its groups and its loop know. -/
def finishTask (id : Nat) (t : Task) (result : Except Fault Value) : Act Unit := do
  modifyTask id fun t => { t with result := some result }
  t.groups.forM fun g => enqueue (.memberDone g)
  if t.stops then enqueue .stop

/-- Goes on with the computation of a task; one that is to be cancelled gets an error. An operation
that was not begun is left alone then. -/
def stepTask (p : Performer) (t : Task) : Act Reply := do
  if let some r := t.thrown then
    return ← p (.throwInto t.code (.raised .ordinary r) true)
  if t.cancelled then
    let e := Fault.raised .ordinary (← makeError .taskCancelled [])
    match ← look t.code with
    | some (.operation _ _ .initial) => throw e
    | _ => p (.throwInto t.code e true)
  else p (.advance t.code .none)

/-- The turn of a task. -/
def runTask (p : Performer) (id : Nat) : Act Unit := do
  match (← get).loop.tasks[id]? with
  | none => pure ()
  | some t =>
    if t.result.isSome then return ()
    modifyTask id fun t => { t with waitsFor := none, cancelled := false, thrown := none }
    match ← Act.attempt (stepTask p t) with
    | .ok (.waits .turn) => enqueue (.task id)
    | .ok (.waits (.group g)) =>
      modifyTask id fun t => { t with waitsFor := some g }
      modifyGroup g fun group => { group with waiter := some id }
    | .ok (.yields v) | .ok (.waits (.given v)) =>
      if v != .none then
        let shown ← p.repr v
        let text := if (← get).isExactly v "generator" then
            "yield was used instead of yield from for generator in task"
          else "Task got bad yield: " ++ shown
        let problem ← makeError .runtime [.text text]
        modifyTask id fun t => { t with thrown := some problem }
      enqueue (.task id)
    | .ok (.returns v) => finishTask id t (.ok v)
    | .error .spent => throw .spent
    | .error e => finishTask id t (.error (← e.settled))

/-- The turn after the end of a group's member. -/
def runMemberDone (g : Nat) : Act Unit := do
  match (← get).loop.groups[g]? with
  | none => pure ()
  | some group =>
    let remaining := group.remaining - 1
    modifyGroup g fun group => { group with remaining := remaining }
    match remaining, group.waiter with
    | 0, some id =>
      if group.cancelled then modifyTask id fun t => { t with cancelled := true }
      enqueue (.task id)
    | _, _ => pure ()

/-- Gives so many turns; whether the loop is to stop. -/
def runTurns (p : Performer) : Nat → Bool → Act Bool
  | 0, stop => return stop
  | n + 1, stop => do
    match (← get).loop.queue with
    | [] => return stop
    | turn :: rest =>
      modifyLoop fun l => { l with queue := rest }
      match turn with
      | .task id => do
        runTask p id
        runTurns p n stop
      | .memberDone g => do
        runMemberDone g
        runTurns p n stop
      | .stop => runTurns p n true

/-- Goes on with iterations until the loop stops, or until a condition holds, at most so many. -/
def runLoop (p : Performer) (enough : EventLoop → Bool) : Nat → Act Unit
  | 0 => throw .spent
  | fuel + 1 => do
    let l := (← get).loop
    if enough l then return ()
    if l.queue.isEmpty then throw .spent
    if !(← runTurns p l.queue.length false) then runLoop p enough fuel

/-- Runs a task for something that is awaited to its end on the current event loop. -/
def runAwaited (p : Performer) (code : Value) : Act Value := do
  let before := (← get).looping
  modify fun w => { w with looping := true }
  let result ← Act.attempt do
    let id ← newTask code [] true
    runLoop p (fun _ => false) stepLimit
    match ← taskResult id with
    | some result => Act.ofResult result
    | none => throw .spent
  modify fun w => { w with looping := before }
  Act.ofResult result

/-- Awaits a value in a coroutine of its own. -/
def awaitAlone (p : Performer) (v : Value) : Act Value := do
  runAwaited p (← newSuspended "await" .coroutine (.waiting v false))

/-! ### The end of an event loop -/

/-- The tasks that have no result. -/
def EventLoop.pending (l : EventLoop) : List Nat :=
  (List.range l.tasks.size).filter fun id =>
    match l.tasks[id]? with
    | some t => t.result.isNone
    | none => false

/-- Cancels a task, or else the tasks it waits for. -/
def cancelTask (id : Nat) : Act Unit := do
  match ((← get).loop.tasks[id]?).bind (·.waitsFor) with
  | some g => modifyGroup g fun group => { group with cancelled := true }
  | none => modifyTask id fun t => { t with cancelled := true }

/-- Cancels what is left of the tasks, and lets them end. -/
def cancelPending (p : Performer) : Act Unit := do
  (← get).loop.pending.forM cancelTask
  runLoop p (fun l => l.pending.isEmpty) stepLimit

/-- Closes the asynchronous generators that were first used on the current event loop. -/
def closeGenerators (p : Performer) : Act Unit := do
  let generators := (← get).loop.generators
  modifyLoop fun l => { l with generators := [] }
  discard (generators.mapM fun r => do newTask (← newOperation r .aclose) [] false)
  runLoop p (fun l => l.pending.isEmpty) stepLimit

/-- Runs a coroutine to its end on an event loop of its own. -/
def runAlone (p : Performer) (code : Value) : Act Value := do
  let w ← get
  if w.looping then
    complain .runtime "asyncio.run() cannot be called from a running event loop"
  let outer := w.loop
  set { w with loop := .idle, looping := true }
  let result ← Act.attempt (runAwaited p code)
  discard (Act.attempt (cancelPending p))
  discard (Act.attempt (closeGenerators p))
  modify fun w => { w with loop := outer, looping := false }
  Act.ofResult result

/-! ### Groups -/

/-- Starts a task for each distinct member of a group, in order. -/
def startMembers (p : Performer) (group : Nat) :
    List Value → List (Value × Nat) → Act (List (Value × Nat))
  | [], started => return started
  | v :: rest, started => do
    match started.find? (·.1 == v) with
    | some _ => startMembers p group rest started
    | none =>
      let w ← get
      if w.isAwaitable v || w.isExactly v "generator" then
        let id ← newTask (← asTask v) [group] false
        startMembers p group rest (started ++ [(v, id)])
      else
        discard (dictKey p v)
        complain .type "An asyncio.Future, a coroutine or an awaitable is required"
where
  /-- What the event loop runs for a member: one that only says how to await it is awaited by a
  coroutine. -/
  asTask (v : Value) : Act Value := do
    match ← look v with
    | some (.instance _) => newSuspended "_wrap_awaitable" .coroutine (.waiting v false)
    | _ => return v

/-- Starts the tasks of a group; a group without members is at its end at once. -/
def beginGroup (p : Performer) (members : List Value) : Act (Option Nat) := do
  if members.isEmpty then return none
  let group := (← get).loop.groups.size
  modifyLoop fun l => { l with groups := l.groups.push ⟨[], 0, none, false⟩ }
  let started ← startMembers p group members []
  let ids := members.filterMap fun v => (started.find? (·.1 == v)).map (·.2)
  modifyGroup group fun g => { g with members := ids, remaining := started.length }
  return some group

/-- The results of a group in the order of its members; a failed member gives its error. -/
def groupResults (group : Nat) : Act Value := do
  match (← get).loop.groups[group]? with
  | none => newList []
  | some g =>
    let results ← g.members.mapM fun id => do
      match ← taskResult id with
      | some (.ok v) => pure v
      | some (.error e) =>
        match ← e.object with
        | some r => pure (.object r)
        | none => throw .spent
      | none => pure .none
    newList results

end Provision.Script
