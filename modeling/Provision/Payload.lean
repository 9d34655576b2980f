/-!
Payloads: what a program may yield, and which values can be driven as programs.

Everything is decided from the `Traits` a value shows. A payload is read in a fixed order (`kind`):
a token first, then a program, then an exact completion, then the two recognisable mistakes, and
anything else is handed back. A program is driven through its asynchronous protocol whenever it has
one (`Manner.accept`).

`Callable.uncalled` recognises a program function that was handed over without being called.
-/

namespace Provision

/-- What a value shows to whoever has to decide what to do with it. -/
structure Traits where
  /-- Whether the value is a token. -/
  token : Bool
  /-- Whether the asynchronous protocol is there in full. -/
  async : Bool
  /-- Whether the synchronous protocol is there in full. -/
  sync : Bool
  /-- Whether the value is exactly a completion. -/
  completion : Bool
  /-- Whether the value is a coroutine. -/
  coroutine : Bool
  /-- Whether the value is a program function that was not called. -/
  uncalled : Bool

/-- How a payload is read. -/
inductive Kind where
  | service
  | nested
  | completion
  | passthrough
  deriving DecidableEq

/-- The mistakes that are recognised in a payload. -/
inductive Mistake where
  | coroutine
  | uncalled
  deriving DecidableEq

/-- The protocol a program is driven through. -/
inductive Protocol where
  | sync
  | async
  deriving DecidableEq

/-- The two ways to drive: in one go, or giving way whenever the program waits. -/
inductive Manner where
  | blocking
  | cooperative
  deriving DecidableEq

/-- How an accepted program is driven: through a protocol of its own, or lifted from the
synchronous to the asynchronous one. -/
inductive Form where
  | direct (via : Protocol)
  | lifted
  deriving DecidableEq

/-- Why a value is not driven. -/
inductive Refusal where
  | notProgram
  | notSynchronous
  deriving DecidableEq

namespace Traits

/-- Whether the value can be driven at all. -/
def isProgram (t : Traits) : Bool := t.async || t.sync

/-- The mistake that a payload shows, if it shows one. -/
def mistake? (t : Traits) : Option Mistake :=
  if t.coroutine then some .coroutine else if t.uncalled then some .uncalled else none

/-- Reads a payload; the first description that fits is the one that counts. -/
def kind (t : Traits) : Except Mistake Kind :=
  if t.token then .ok .service
  else if t.isProgram then .ok .nested
  else if t.completion then .ok .completion
  else
    match t.mistake? with
    | some m => .error m
    | none => .ok .passthrough

end Traits

/-- Whether and how a value is driven. Driving in one go refuses every asynchronous program, even
one that could be driven synchronously as well. -/
def Manner.accept (t : Traits) : Manner → Except Refusal Form
  | .cooperative =>
    if t.async then .ok (.direct .async)
    else if t.sync then .ok .lifted
    else .error .notProgram
  | .blocking =>
    if t.async then .error .notSynchronous
    else if t.sync then .ok (.direct .sync)
    else .error .notProgram

/-! ### Functions handed over without a call -/

/-- What calling a function gives. -/
inductive Making where
  | program
  | other
  deriving DecidableEq

/-- A callable, as far as it matters whether it makes programs: a function, a function with some
arguments supplied beforehand, or a function declared to make programs. Any of them may be
`marked` by hand the way a declaration marks. -/
inductive Callable where
  | function (makes : Making) (marked : Bool)
  | supplied (inner : Callable) (marked : Bool)
  | declared (inner : Callable) (marked : Bool)

namespace Callable

/-- Whether the function itself, found under any number of supplied arguments, makes programs by
the way it is written. A declaration hides the function it wraps. -/
def writtenAsProgram : Callable → Bool
  | .function makes _ => makes = .program
  | .supplied inner _ => inner.writtenAsProgram
  | .declared _ _ => false

/-- Whether the callable itself carries the mark of a declaration. -/
def isMarked : Callable → Bool
  | .function _ marked => marked
  | .supplied _ marked => marked
  | .declared _ marked => marked

/-- Whether the callable is recognised as a program function that was not called. -/
def uncalled (c : Callable) : Bool := c.writtenAsProgram || c.isMarked

end Callable

end Provision
