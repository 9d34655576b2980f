import Provision.Script.Compare

/-!
Snapshots: values as they look at one moment.

`snapshotTo` follows a value down to its scalars. A compound value is shown with its class and its
contents, an error with its kind and message, a suspended object or a function with its name, and
anything else with its text. The wording of three general kinds of errors is not shown
(`showsMessage`). An error of one of the library's own kinds is shown with those of its fields that
it has.
-/

namespace Provision.Script

/-- Whether an error of a kind is shown with its message. -/
def showsMessage (kind : ErrorKind) (message : String) : Bool :=
  match kind with
  | .attribute => false
  | .index => false
  | .type => (message.splitOn "is not a generator function.").length > 1
  | _ => true

/-- The fields that errors of a kind are shown with, as far as they have them. -/
def shownErrorFields (kind : ErrorKind) : List String :=
  if [.serviceNotProvided, .cancelled, .resolutionType, .notSynchronous].contains kind then
    ["name", "reason", "payload"]
  else []

/-- What is shown of an error beside its kind. -/
def errorDetails (p : Performer) (snap : Value → Act Shown) (v : Value) (e : ErrorParts) :
    Act (List (String × Shown)) := do
  let message ← strShown p v
  let words := if showsMessage e.kind message then [("message", Shown.text message)] else []
  let fields ← (shownErrorFields e.kind).filterMapM fun key => do
    if ← exposes p v key then return some (key, ← snap (← p.read v key)) else return none
  return words ++ fields

/-- A record as it looks now, if it is shown in a form of its own. -/
def recordShown? (p : Performer) (snap : Value → Act Shown) (v : Value) (cls : String) :
    Act (Option (List (String × Shown))) := do
  let field (key : String) : Act Shown := do snap (← p.read v key)
  let sub := if cls.startsWith "Sub" then [("sub", Shown.bool true)] else []
  match cls with
  | "Token" | "SubToken" =>
    let contract ← p.read v "contract"
    let shown ← if contract = .none then pure [] else do pure [("contract", ← snap contract)]
    return some (("$token", ← field "name") :: shown ++ sub)
  | "Done" | "SubDone" => return some (("$done", ← field "value") :: sub)
  | "Completed" => return some [("$completed", ← field "value")]
  | "ComposedEnvironment" => return some [("$composed", ← field "environments")]
  | "SequenceEnvironment" => return some [("$sequence", ← field "sequence")]
  | "Runtime" => return some [("$runtime", ← field "defaults")]
  | "ServiceProgram" =>
    return some [("$service_program", ← field "services"), ("args", ← field "args"),
      ("kwargs", ← field "kwargs")]
  | "Cancellation" =>
    return some [("$cancellation", ← field "cancelled"), ("reason", ← field "reason")]
  | _ => return none

/-- A value as it looks now, to a given depth. -/
def snapshotTo (p : Performer) : Nat → Value → Act Shown
  | _, .none => return .null
  | _, .bool b => return .bool b
  | _, .int i => return .int i
  | _, .text s => return .text s
  | 0, .object _ => return .null
  | depth + 1, .object r => do
    let snap := snapshotTo p depth
    let v := Value.object r
    let w ← get
    let described : Act Shown := do
      return .fields [("$repr", .text (← reprShown p v))]
    match w.object? v with
    | none => return .null
    | some o =>
      match o with
      | .list items => return .list (← items.toList.mapM snap)
      | .tuple items => return .fields [("$tuple", .list (← items.mapM snap))]
      | .dict entries =>
        let shown ← entries.pairs.mapM fun e => do
          return Shown.list [← snap e.1.shown, ← snap e.2]
        return .fields [("$dict", .list shown)]
      | .error e =>
        return .fields (("$error", .text e.kind.name) :: (← errorDetails p snap v e))
      | .instance (.known cls) =>
        match ← recordShown? p snap v cls with
        | some fields => return .fields fields
        | none => described
      | .mock m =>
        let spec ← match m.spec with
          | some cls => do snap (← p.read cls "__name__")
          | none => pure .null
        return .fields [("$mock", .text m.cls.name), ("spec", spec)]
      | .suspended s =>
        let tag := match s.style with
          | .asyncGenerator => "$agen"
          | .coroutine => "$coroutine"
          | _ => "$gen"
        return .fields [(tag, .text s.name)]
      | .contract _ | .cls _ => return .fields [("$class", ← snap (← p.read v "__name__"))]
      | _ =>
        match w.isExactly v "function", w.naming? v with
        | true, some naming => return .fields [("$fn", .text naming.qualified)]
        | _, _ => described

/-- A value as it looks now. -/
def snapshot (p : Performer) (v : Value) : Act Shown := snapshotTo p depthLimit v

/-- Notes an event. -/
def note (p : Performer) (v : Value) : Act Unit := do
  let shown ← snapshot p v
  modify fun w => { w with events := w.events.push shown }

/-- Notes an event made of texts and one more value. -/
def noteAll (p : Performer) (items : List Value) : Act Unit := do
  let shown ← items.mapM (snapshot p)
  modify fun w => { w with events := w.events.push (.list shown) }

end Provision.Script
