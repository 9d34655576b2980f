/-!
Plans: lists of services in the order in which a program is expected to ask for them.

`take?` hands out the first item of a plan if it is the one that is asked for, and otherwise leaves
the plan as it is (`take?_eq_some_iff`); `takeNext` does so with a plan that is kept somewhere.
`rehearse` answers a request from a plan or else from a fallback, and keeps a journal of where every
service came from; a request that neither can serve is `Cast.unknown`, of which `lookupRehearsed`
makes an error, and `unknownText` is what that says. When a program has come to a value, `conclude`
sees to it that the plan was used up. A block that is to use up a plan is guarded by a generator, and
`WayOut.told` is what becomes of the error that such a block fails with.
-/

namespace Provision

/-- Hands out the first item of a plan if it is the one that is asked for. -/
def take? {ι : Type} (asked : ι → Bool) : List ι → Option (ι × List ι)
  | [] => none
  | i :: rest => if asked i then some (i, rest) else none

/-- An item is handed out exactly when it is the first one and it is asked for. -/
theorem take?_eq_some_iff {ι : Type} {asked : ι → Bool} {plan rest : List ι} {i : ι} :
    take? asked plan = some (i, rest) ↔ plan = i :: rest ∧ asked i = true := by
  cases plan with
  | nil => simp [take?]
  | cons j js => by_cases h : asked j = true <;> simp [take?, h] <;> grind

/-- Hands out the first item of a plan that is kept somewhere, and drops it there, if it is the one
that is asked for. -/
def takeNext {m : Type → Type} [Monad m] {ι : Type} (first : m (Option ι)) (asked : ι → m Bool)
    (drop : m Unit) : m (Option ι) := do
  match ← first with
  | none => return none
  | some item =>
    let isAsked ← asked item
    match take? (fun _ => isAsked) [item] with
    | none => return none
    | some (item, _) =>
      drop
      return some item

/-! ### Rehearsals -/

/-- Where a service came from. -/
inductive Origin where
  | sequence
  | fallback
  | notFound
  deriving DecidableEq

/-- The word for where a service came from. -/
def Origin.word : Origin → String
  | .sequence => "sequence"
  | .fallback => "fallback"
  | .notFound => "NOT FOUND"

/-- How a request is answered in a rehearsal. -/
inductive Cast (V E : Type) where
  | given (v : V)
  /-- The plan or the fallback failed by itself. -/
  | failed (e : E)
  /-- Neither the plan nor the fallback has the service; the fallback said so with this error. -/
  | unknown (said : E)

/-- The services a program has asked for so far, each with its origin. -/
abbrev Journal (ν : Type) := List (Origin × ν)

variable {m : Type → Type} [Monad m] {ν V E : Type}

/-- Answers a request for a name from a plan, and from a fallback only if the plan misses it. Any
missing key counts as a miss, whichever key it is. -/
def rehearse (missingKey : E → m Bool) (name : ν) (journal : Journal ν)
    (plan fallback : m (Except E V)) : m (Cast V E × Journal ν) := do
  match ← plan with
  | .ok v => pure (.given v, journal ++ [(.sequence, name)])
  | .error e =>
    if !(← missingKey e) then pure (.failed e, journal)
    else match ← fallback with
      | .ok v => pure (.given v, journal ++ [(.fallback, name)])
      | .error e =>
        if ← missingKey e then pure (.unknown e, journal ++ [(.notFound, name)])
        else pure (.failed e, journal)

/-- What a lookup in a rehearsal comes to; of a service that is unknown an error is made. -/
def Cast.result (unknown : E → m E) : Cast V E → m (Except E V)
  | .given v => pure (.ok v)
  | .failed e => pure (.error e)
  | .unknown said => do return .error (← unknown said)

/-- Looks a name up in a rehearsal. The journal is kept before an error is made of a service that is
unknown. -/
def lookupRehearsed (missingKey : E → m Bool) (keep : Journal ν → m Unit)
    (unknown : Journal ν → E → m E) (name : ν) (journal : Journal ν)
    (plan fallback : m (Except E V)) : m (Except E V) := do
  let (cast, journal) ← rehearse missingKey name journal plan fallback
  keep journal
  cast.result (unknown journal)

/-- The outcome of a program that had a plan: a value counts only if nothing is left of the plan. -/
def conclude (unused : m (Option E)) : Except E V → m (Except E V)
  | .error e => pure (.error e)
  | .ok v => do
    match ← unused with
    | some e => pure (.error e)
    | none => pure (.ok v)

/-- What becomes of the error that a guarded block fails with. -/
inductive WayOut where
  /-- The guard has dealt with it, and one goes on behind the block. -/
  | suppressed
  | itself
  /-- Another error of the guard comes out. -/
  | replaced

/-- What becomes of an error, by what its guard raises when it is told of it: whether that is an end
signal, whether it is the very error, and whether it was made of the error because this is an end
signal and may not leave a generator. -/
def WayOut.told (ends same wraps : Bool) : WayOut :=
  if ends then
    if same then .itself else .suppressed
  else
    if same || wraps then .itself else .replaced

/-- What is said of a service that is unknown: the requests so far, the last of which is the one for
it, and the name that is next in the plan, if there is one. -/
def unknownText (asked : String) (journal : Journal String) (next : Option String) : String :=
  let lines := journal.map fun entry => entry.1.word ++ ": " ++ entry.2
  let expected := (next.map ("\nNEXT EXPECTED: " ++ ·)).getD ""
  "Service not found: " ++ asked ++ "! Log follows:\n\x7b\x7b\x7b\n" ++
    "\n".intercalate lines ++ expected ++ "\n\x7d\x7d\x7d"

/-- What is said of a plan that was not used up, given the names that are left. -/
def leftoverText (names : String) : String := "Not all services were requested: " ++ names

end Provision
