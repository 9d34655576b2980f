/-!
Environments, seen from the side of a lookup.

A lookup finds an implementation, finds that there is none, or fails. There is none exactly when
the environment's error is a missing key whose only argument is the requested name
(`Finding.ofResult`); any other missing key is a failure of the environment itself. `search` asks
the layers of a composed environment from the last to the first and stops at the first one that
does not answer with absence, and `firstArrivals` gives the names of layers in the order in which
the layers first mention them.

Layers may change while somebody goes through them, so there are also forms of both that take one
layer, or one name, at a time: `searchAlong` and `nextUnseen`.
-/

namespace Provision

/-- What a lookup comes to. -/
inductive Finding (V E : Type) where
  | found (v : V)
  /-- There is none, as this error says. -/
  | absent (said : E)
  | failed (e : E)

namespace Finding

variable {V E : Type}

/-- Reads a lookup's result, given which errors say that the environment has no such name. -/
def ofResult (saysAbsent : E → Bool) : Except E V → Finding V E
  | .ok v => .found v
  | .error e => if saysAbsent e then .absent e else .failed e

end Finding

section

variable {m : Type → Type} [Monad m] {V E : Type}

/-- Asks in turn until an answer is not absence; there is nothing if every answer was. -/
def firstPresent : List (m (Finding V E)) → m (Option (Except E V))
  | [] => pure none
  | ask :: rest => do
    match ← ask with
    | .absent _ => firstPresent rest
    | .found v => pure (some (.ok v))
    | .failed e => pure (some (.error e))

/-- A lookup in layers: the last layer is asked first. -/
def search (layers : List (m (Finding V E))) : m (Option (Except E V)) :=
  firstPresent layers.reverse

end

/-- The names of a list without those already seen, each at its first arrival. -/
def unseen {ν : Type} [BEq ν] (seen : List ν) : List ν → List ν
  | [] => []
  | n :: rest => if seen.contains n then unseen seen rest else n :: unseen (seen ++ [n]) rest

/-- The names that some layers mention, in order of first mention and without repetition. -/
def firstArrivals {ν : Type} [BEq ν] (layers : List (List ν)) : List ν := unseen [] layers.flatten

/-! ### One at a time -/

section

variable {m : Type → Type} [Monad m] {α ν τ V E : Type}

/-- Goes through what comes next, keeping a state, until a step says that this is enough, in at most
so many steps. -/
@[specialize]
def through (spent : m τ) (next : m (Option α)) (step : τ → α → m (τ × Bool)) : Nat → τ → m τ
  | 0, _ => spent
  | fuel + 1, state => do
    match ← next with
    | none => return state
    | some a =>
      let (state, goesOn) ← step state a
      if goesOn then through spent next step fuel state else return state

/-- A lookup in layers that come one after the other. Each is asked when its turn comes. -/
@[specialize]
def searchAlong (spent : m (Option (Except E V))) (next : m (Option α))
    (ask : α → m (Finding V E)) (fuel : Nat) : m (Option (Except E V)) :=
  through spent next (fun _ layer => do
    let found ← search [ask layer]
    return (found, found.isNone)) fuel none

/-- The next name that was not seen before, and the layer that it is a name of; each layer gives its
names one after the other. -/
@[specialize]
def nextUnseen (spent : m (Option (ν × α))) (nextLayer : m (Option α)) (nextName : α → m (Option ν))
    (wasSeen : ν → m Bool) (note : ν → m Unit) : Nat → Option α → m (Option (ν × α))
  | 0, _ => spent
  | fuel + 1, none => do
    match ← nextLayer with
    | none => return none
    | some layer => nextUnseen spent nextLayer nextName wasSeen note fuel (some layer)
  | fuel + 1, some layer => do
    match ← nextName layer with
    | none => nextUnseen spent nextLayer nextName wasSeen note fuel none
    | some name =>
      if ← wasSeen name then nextUnseen spent nextLayer nextName wasSeen note fuel (some layer)
      else
        note name
        return some (name, layer)

end

end Provision
