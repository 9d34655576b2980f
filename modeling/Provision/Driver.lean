import Provision.Lifting

/-!
The driver: running a program until it ends, giving it what it asks for.

A run is a stack of `Level`s, one for each program that waits for a nested one, and the talk the
innermost level is in (`Run`). A level goes in cycles (`cycle`): the program is resumed, and its
payload is answered, by an implementation, by the result of a nested program, or by itself. Every
way out of a level leads through `finish`, which closes the program; the error that a level is left
with is being handled meanwhile. The two manners of driving differ in whom they accept, in the name
their records go by, and in the boundary an error crosses when it leaves a level (`Manner.out`).

`Verdict.next` takes a run from one talk to the next, and `Run.conduct` goes through a whole run.
All that a run does to its surroundings is in the requests of its talks.
-/

namespace Provision

variable {V E : Type} [ValueLike V] [ErrorLike E]

/-! ### One answer -/

/-- Looks a name up; absence is reported and becomes an error. -/
def lookup (name : V) : Talk V E (Except E V) :=
  .ask (.find name) fun
    | .found v => .done (.ok v)
    | .failed e => .done (.error e)
    | .absent said => Talk.handling said <|
      .ask (.report (.notProvided name)) fun
        | some e => .done (.error e)
        | none => .ask (.complain (.notProvided name)) fun e => .done (.error e)

/-- Looks up what some tokens ask for, in order, up to the first failure. -/
def require : List V → Talk V E (Except E Unit)
  | [] => .done (.ok ())
  | token :: rest =>
    .ask (.nameOf token) fun
      | .error e => .done (.error e)
      | .ok name => (lookup name).bind fun
        | .ok _ => require rest
        | .error e => .done (.error e)

/-- Reads a payload; a mistake becomes an error. A coroutine is closed before it is complained
about. -/
def classify (payload : V) : Talk V E (Except E Kind) :=
  .ask (.inspect payload .payload) fun
    | .error e => .done (.error e)
    | .ok traits =>
      match traits.kind with
      | .ok kind => .done (.ok kind)
      | .error .uncalled =>
        .ask (.complain (.unresolvable payload .uncalled)) fun e => .done (.error e)
      | .error .coroutine =>
        .ask (.discard payload) fun
          | some e => .done (.error e)
          | none =>
            .ask (.complain (.unresolvable payload .coroutine)) fun e => .done (.error e)

/-! ### One level -/

/-- A program that is being driven. A lifted one carries the stage of its lifting. -/
structure Level (V : Type) where
  program : V
  drive : Protocol ⊕ Lifting.Stage

/-- How the program of a level is driven. -/
def Level.form (l : Level V) : Form :=
  match l.drive with
  | .inl via => .direct via
  | .inr _ => .lifted

/-- The level of a program that was accepted and not yet resumed. -/
def Level.opened (program : V) : Form → Level V
  | .direct via => ⟨program, .inl via⟩
  | .lifted => ⟨program, .inr .unstarted⟩

/-- What the program of a level does when it is resumed. -/
inductive Response (V E : Type) where
  | yields (payload : V)
  | ends (value : V)
  | raises (e : E)

/-- The response that a program's own signal is, through a protocol: an asynchronous program ends
without a value. -/
def Protocol.response : Protocol → Signal V E → Response V E
  | _, .yields payload => .yields payload
  | .sync, .ends value => .ends value
  | .async, .ends _ => .ends ValueLike.nothing
  | _, .raises e => .raises e

/-- The response that a step of a lifted program is. The completion it delivers is recognised as
exactly that, so it is not read: reading it would come to the same (`respond_delivers`). -/
def Lifting.Step.response : Lifting.Step V E → Response V E
  | .yields payload => .yields payload
  | .delivers value => .ends value
  | .ends => .ends ValueLike.nothing
  | .raises e => .raises e

/-- Resumes the program of a level. -/
def Level.resume (l : Level V) (how : Resumption V E) : Talk V E (Level V × Response V E) :=
  match l.drive with
  | .inl via => .ask (.resume via l.program how) fun s => .done (l, via.response s)
  | .inr stage => (Lifting.resume l.program stage how).bind fun s =>
      .done (⟨l.program, .inr s.1⟩, s.2.response)

/-- Closes the program of a level; the result is the error that comes out. A lifted program is
closed, and if that raises nothing the program beneath is closed once more, since a lifting that was
not started or is at its end does not reach it. -/
def Level.close (l : Level V) : Talk V E (Option E) :=
  match l.drive with
  | .inl via => .ask (.close via l.program) .done
  | .inr stage => (Lifting.close l.program stage).bind fun
      | some e => .done (some e)
      | none => .ask (.close .sync l.program) .done

/-- What a talk of a level comes to. -/
inductive Verdict (V E : Type) where
  /-- The program is to be resumed. -/
  | again (l : Level V) (how : Resumption V E)
  /-- A nested program is to be run first. -/
  | enter (l : Level V) (nested : V)
  /-- The level is left with a result. -/
  | leave (result : Except E V)

/-- What becomes of a result when it leaves a level: driving cooperatively, a level is a coroutine
of its own. -/
def Manner.out : Manner → Except E V → Except E V
  | _, .ok v => .ok v
  | .blocking, .error e => .error e
  | .cooperative, .error e => .error (Boundary.coroutine.cross e)

/-- Closes the program of a level and leaves; an error that comes out of closing takes the place of
the result. -/
def finish (m : Manner) (l : Level V) (result : Except E V) : Talk V E (Verdict V E) :=
  (match result with
    | .ok _ => l.close
    | .error e => Talk.handling e l.close).bind fun
    | some e => .done (.leave (m.out (.error e)))
    | none => .done (.leave (m.out result))

/-- Puts a record into the log and goes on, unless that fails. -/
def reporting (m : Manner) (l : Level V) (r : Report V) (next : Talk V E (Verdict V E)) :
    Talk V E (Verdict V E) :=
  .ask (.report r) fun
    | some e => finish m l (.error e)
    | none => next

/-- Leaves with a final value, which is asked for once the end is reported. -/
def deliver (m : Manner) (l : Level V) (value : Talk V E (Except E V)) : Talk V E (Verdict V E) :=
  reporting m l (.finished m l.program l.form) (value.bind (finish m l))

/-- Goes on with an answer unless a stop was requested; then the program is resumed as the
cancellation says. -/
def unlessDue (m : Manner) (l : Level V) (answer : Talk V E (Verdict V E)) :
    Talk V E (Verdict V E) :=
  .ask .due fun
    | .goOn => answer
    | .stop how => .done (.again l how)
    | .failed e => finish m l (.error e)

/-- Answers a payload. -/
def settle (m : Manner) (l : Level V) (payload : V) : Kind → Talk V E (Verdict V E)
  | .completion => deliver m l (.request (.valueOf payload))
  | .nested => unlessDue m l <| reporting m l (.nested m payload) <| .done (.enter l payload)
  | .service => unlessDue m l <| .ask (.nameOf payload) fun
      | .error e => finish m l (.error e)
      | .ok name => (lookup name).bind fun
        | .error e => finish m l (.error e)
        | .ok v => reporting m l (.resolved name) <| .done (.again l (.send v))
  | .passthrough => unlessDue m l <|
      reporting m l (.passing payload) <| .done (.again l (.send payload))

/-- Resumes the program of a level and answers what it yields. -/
def cycle (m : Manner) (l : Level V) (how : Resumption V E) : Talk V E (Verdict V E) :=
  (l.resume how).bind fun
    | (l, .raises e) => finish m l (.error e)
    | (l, .ends value) => deliver m l (.done (.ok value))
    | (l, .yields payload) => (classify payload).bind fun
        | .error e => finish m l (.error e)
        | .ok kind => settle m l payload kind

/-- Takes up a program: it is refused, or closed at once because a stop was requested, or resumed
for the first time. -/
def takeUp (m : Manner) (program : V) : Talk V E (Verdict V E) :=
  .ask (.inspect program .program) fun
    | .error e => .done (.leave (m.out (.error e)))
    | .ok traits =>
      match m.accept traits with
      | .error why => .ask (.complain (.refused program why)) fun e =>
          .done (.leave (m.out (.error e)))
      | .ok form => .ask .barred fun
          | some e => finish m (Level.opened program form) (.error e)
          | none => .done (.again (Level.opened program form) (.send ValueLike.nothing))

/-- Goes on with a level whose nested program has come to a result. -/
def proceed (m : Manner) (l : Level V) : Except E V → Talk V E (Verdict V E)
  | .ok v => cycle m l (.send v)
  | .error e => finish m l (.error e)

/-! ### The run -/

/-- A run: the levels that wait for a nested program, innermost first, and the talk of the level
that is active; or its result. -/
inductive Run (V E : Type) where
  | active (waiting : List (Level V)) (talk : Talk V E (Verdict V E))
  | over (result : Except E V)

/-- The run of a program that was not taken up yet. -/
def Run.start (m : Manner) (program : V) : Run V E := .active [] (takeUp m program)

/-- What follows on a talk that has come to its verdict. -/
def Verdict.next (m : Manner) (waiting : List (Level V)) : Verdict V E → Run V E
  | .again l how => .active waiting (cycle m l how)
  | .enter l nested => .active (l :: waiting) (takeUp m nested)
  | .leave result =>
    match waiting with
    | [] => .over result
    | l :: rest => .active rest (proceed m l result)

/-- Goes through a run with a host that answers at once, in at most so many steps; the result, if
that was enough. -/
@[specialize]
def Run.conduct {μ : Type → Type} [Monad μ] (m : Manner) (host : (r : Request V E) → μ r.Answer) :
    Nat → Run V E → μ (Option (Except E V))
  | 0, _ => pure none
  | _ + 1, .over result => pure (some result)
  | fuel + 1, .active waiting (.done verdict) =>
    Run.conduct m host fuel (verdict.next m waiting)
  | fuel + 1, .active waiting (.ask r next) => do
    let a ← host r
    Run.conduct m host fuel (.active waiting (next a))

end Provision
