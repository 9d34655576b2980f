import Provision.Bindings
import Provision.Environment
import Provision.Payload

/-!
Dialogues: what a driver asks of its surroundings, and the trees of questions it goes through.

A driver never touches a program, an environment or a log itself. It puts a `Request`, is told an
answer of the type `Request.Answer`, and goes on from there; a `Talk` is such an exchange that
comes to an end whatever the answers are. A host supplies the answers. Nothing is assumed about
them, so that programs, environments and anything running beside them may do as they like between
a request and its answer.

An error may be handled while a talk goes on (`Talk.handling`). Whoever raises an error without
naming one raises the error that is being handled, so this is part of the exchange.

`Talk.bind_assoc` says that talks can be put one after the other, and `Talk.answeredBy_bind` that a
host does not notice where one ends and the next begins.
-/

namespace Provision

/-! ### Values and errors -/

/-- The errors that control flow itself is made of, told apart from all others. -/
inductive Nature where
  /-- The end signal of a synchronous program. -/
  | ended
  /-- The end signal of an asynchronous program. -/
  | asyncEnded
  /-- The signal that a program is being closed. -/
  | closing
  /-- Not an error at all. Throwing it fails on the side of whoever throws. -/
  | improper
  | ordinary
  deriving DecidableEq

/-- The boundaries that do not let every error through. -/
inductive Boundary where
  | coroutine
  | lifting
  deriving DecidableEq

/-- End signals that may not cross a boundary: they would be taken for its own end. -/
def Boundary.stops : Boundary → Nature → Bool
  | .coroutine, .ended => true
  | .lifting, .ended => true
  | .lifting, .asyncEnded => true
  | _, _ => false

/-- A type of values, one of which stands for no value. -/
class ValueLike (V : Type) where
  nothing : V

/-- A type of errors. -/
class ErrorLike (E : Type) where
  /-- The part an error plays in control flow. -/
  nature : E → Nature
  /-- The error that takes the place of one stopped at a boundary. -/
  stopped : Boundary → E → E
  /-- A new signal that a program is being closed. -/
  exit : E

/-- The error that comes out at the other side of a boundary. -/
def Boundary.cross {E : Type} [ErrorLike E] (b : Boundary) (e : E) : E :=
  if b.stops (ErrorLike.nature e) then ErrorLike.stopped b e else e

/-! ### Requests and answers -/

/-- How a waiting program is resumed. -/
inductive Resumption (V E : Type) where
  | send (v : V)
  | throw (e : E)

/-- What a resumed program does: it suspends with a payload, ends, or fails. The value it ends with
means nothing for an asynchronous program. -/
inductive Signal (V E : Type) where
  | yields (payload : V)
  | ends (value : V)
  | raises (e : E)

/-- What goes into the log. -/
inductive Report (V : Type) where
  | finished (manner : Manner) (program : V) (form : Form)
  | nested (manner : Manner) (program : V)
  | resolved (name : V)
  | passing (payload : V)
  | notProvided (name : V)
  | stopRequested (reason : V)

/-- What is wrong with a value; an error is made of it. -/
inductive Complaint (V : Type) where
  | refused (program : V) (why : Refusal)
  | unresolvable (payload : V) (why : Mistake)
  | notProvided (name : V)

/-- What looking at a cancellation comes to. -/
inductive Due (V E : Type) where
  | goOn
  /-- A stop was requested, and the program is to be resumed in this way. -/
  | stop (how : Resumption V E)
  /-- The cancellation itself failed. -/
  | failed (e : E)

/-- What a value is looked at as. Whether it is a function that was not called matters for a payload
only. -/
inductive Role where
  | payload
  | program
  deriving DecidableEq

/-- What is asked of the host. -/
inductive Request (V E : Type) where
  /-- What does this value show? The look itself may fail. -/
  | inspect (v : V) (role : Role)
  /-- Was a stop requested before the start? The answer is the error to fail with. -/
  | barred
  /-- Was a stop requested by now? -/
  | due
  /-- Resume a program through one of its protocols. -/
  | resume (via : Protocol) (program : V) (how : Resumption V E)
  /-- Close a program through one of its protocols; the answer is the error that comes out. -/
  | close (via : Protocol) (program : V)
  /-- Look a name up in the environment. -/
  | find (name : V)
  /-- The name that a token asks for. -/
  | nameOf (token : V)
  /-- The final value in a completion. -/
  | valueOf (completion : V)
  /-- Put a record into the log; the answer is the error that this comes to. -/
  | report (r : Report V)
  /-- Make the error of a complaint. -/
  | complain (c : Complaint V)
  /-- Close a coroutine that is not going to be awaited. -/
  | discard (v : V)
  /-- Call a factory with the services under their attribute names, and further arguments. -/
  | build (factory services arguments keywords : V)
  /-- From here on an error is being handled. -/
  | handle (e : E)
  /-- The error that was taken up last is handled no longer. -/
  | handled

/-- The type of the answers to a request. -/
@[reducible]
def Request.Answer {V E : Type} : Request V E → Type
  | .inspect .. => Except E Traits
  | .barred => Option E
  | .due => Due V E
  | .resume .. => Signal V E
  | .close .. => Option E
  | .find _ => Finding V E
  | .nameOf _ => Except E V
  | .valueOf _ => Except E V
  | .report _ => Option E
  | .complain _ => E
  | .discard _ => Option E
  | .build .. => Except E V
  | .handle _ => Unit
  | .handled => Unit

/-! ### Talks -/

/-- An exchange of requests and answers that comes to an end whatever the answers are. -/
inductive Talk (V E α : Type) where
  | done (a : α)
  | ask (r : Request V E) (next : r.Answer → Talk V E α)

namespace Talk

variable {V E α β γ : Type}

/-- One talk, and then another that depends on what it came to. -/
def bind : Talk V E α → (α → Talk V E β) → Talk V E β
  | .done a, f => f a
  | .ask r next, f => .ask r fun a => (next a).bind f

instance : Monad (Talk V E) where
  pure := .done
  bind := bind

/-- A talk of one request. -/
def request (r : Request V E) : Talk V E r.Answer := .ask r .done

/-- A talk that goes on while an error is being handled. -/
def handling (e : E) (t : Talk V E α) : Talk V E α :=
  .ask (.handle e) fun _ => t.bind fun a => .ask .handled fun _ => .done a

@[simp]
theorem bind_done (a : α) (f : α → Talk V E β) : (done a : Talk V E α).bind f = f a := rfl

@[simp]
theorem bind_ask (r : Request V E) (next : r.Answer → Talk V E α) (f : α → Talk V E β) :
    (ask r next).bind f = ask r fun a => (next a).bind f := rfl

theorem bind_assoc (t : Talk V E α) (f : α → Talk V E β) (g : β → Talk V E γ) :
    (t.bind f).bind g = t.bind fun a => (f a).bind g := by
  induction t with
  | done a => rfl
  | ask r next ih => simp [ih]

/-- Goes through a talk with a host that answers at once. -/
def answeredBy {m : Type → Type} [Monad m] (host : (r : Request V E) → m r.Answer) :
    Talk V E α → m α
  | .done a => pure a
  | .ask r next => do (next (← host r)).answeredBy host

/-- A host answers two talks in turn as it answers the one made of both. -/
theorem answeredBy_bind {m : Type → Type} [Monad m] [LawfulMonad m]
    (host : (r : Request V E) → m r.Answer) (t : Talk V E α) (f : α → Talk V E β) :
    (t.bind f).answeredBy host = t.answeredBy host >>= fun a => (f a).answeredBy host := by
  induction t with
  | done a => simp [answeredBy]
  | ask r next ih => simp [answeredBy, ih]

end Talk

end Provision
