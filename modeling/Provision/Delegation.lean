import Provision.Dialogue

/-!
Delegation: a generator that hands the control over.

Where a generator delegates, something else is resumed in its place, and the generator suspends
where that suspends. Once it has ended, the generator goes on with its final value, or with the
error that it has failed with. What is thrown is thrown into it, except for the closing signal: then
it is closed first.

A generator that delegates is described by the one that suspends at the same places, with what it
delegates to for its payload. `Delegation.Stage` says at which of its suspensions it delegates and
where it stands. What is delegated to is a `Delegate`; a token, for one, has an iterator that yields
the token and returns what it is sent (`iteration`).
-/

namespace Provision

variable {V E γ : Type} {μ : Type → Type} [Monad μ]

/-! ### What can be delegated to -/

/-- How the iterator of a token responds when it is resumed: it yields the token, and then returns
what it is sent. -/
def iteration (token : V) (begun : Bool) : Resumption V E → Signal V E
  | .send v => if begun then .ends v else .yields token
  | .throw e => .raises e

/-- What the control is handed over to: what is made of a value for that, and how it is resumed and
closed where it stands. -/
structure Delegate (μ : Type → Type) (V E γ : Type) where
  make : V → μ (Except E γ)
  resume : γ → Resumption V E → μ (Signal V E × γ)
  close : γ → μ (Option E)

/-- The iterator of a token. It is a generator, and so not every error comes out of it as the one
that was thrown. -/
def Delegate.token (out : E → E) : Delegate μ V E (V × Bool) where
  make t := pure (.ok (t, false))
  resume
    | (t, begun), .send v => pure (iteration t begun (.send v), t, true)
    | (t, begun), .throw e => pure (iteration t begun (.throw (out e)), t, true)
  close _ := pure none

/-! ### Generators that delegate -/

/-- What comes out of closing a generator that has responded to the closing signal in this way. -/
def Signal.closed [ErrorLike E] (ignored : E) : Signal V E → Option E
  | .yields _ => some ignored
  | .ends _ => none
  | .raises e =>
    match ErrorLike.nature e with
    | .ended => none
    | .closing => none
    | _ => some e

namespace Delegation

/-- Where a generator stands. Each point says of a delegation that is still to come how many times
the generator suspends before it. -/
inductive Stage (γ : Type) where
  | outside (points : List Nat)
  /-- The control was handed over. -/
  | inside (g : γ) (points : List Nat)

/-- What the generator makes of a response to which the control was handed over: it suspends, or it
goes on by itself. -/
def relay (points : List Nat) (back : Resumption V E → μ (Signal V E × Stage γ)) :
    Signal V E × γ → μ (Signal V E × Stage γ)
  | (.yields v, g) => pure (.yields v, .inside g points)
  | (.ends v, _) => back (.send v)
  | (.raises e, _) => back (.throw e)

variable [ValueLike V] (own : Resumption V E → μ (Signal V E)) (d : Delegate μ V E γ)

/-- What follows on a response of the generator itself; `own` is how that is resumed. -/
def respond : List Nat → Signal V E → μ (Signal V E × Stage γ)
  | 0 :: points, .yields v => do
    let back := fun how => do respond points (← own how)
    match ← d.make v with
    | .error e => back (.throw e)
    | .ok g => relay points back (← d.resume g (.send ValueLike.nothing))
  | (n + 1) :: points, .yields v => pure (.yields v, .outside (n :: points))
  | points, s => pure (s, .outside points)

/-- The generator goes on by itself. -/
def goOn (points : List Nat) (how : Resumption V E) : μ (Signal V E × Stage γ) := do
  respond own d points (← own how)

variable [ErrorLike E]

/-- Resumes a generator that delegates. -/
def resume : Stage γ → Resumption V E → μ (Signal V E × Stage γ)
  | .outside points, how => goOn own d points how
  | .inside g points, .send v => do relay points (goOn own d points) (← d.resume g (.send v))
  | .inside g points, .throw e =>
    match ErrorLike.nature e with
    | .closing => do goOn own d points (.throw ((← d.close g).getD e))
    | _ => do relay points (goOn own d points) (← d.resume g (.throw e))

/-- Closes a generator that delegates: the closing signal is thrown into it. One that will not
delegate any more is closed as it is, by `shut`. -/
def close (shut : μ (Option E)) (ignored : E) : Stage γ → μ (Option E × Stage γ)
  | .outside [] => do return (← shut, .outside [])
  | stage => do
    let (s, stage) ← resume own d stage (.throw ErrorLike.exit)
    return (s.closed ignored, stage)

end Delegation

end Provision
