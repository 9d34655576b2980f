/-!
Cancellation: a flag that can be raised once.

`cancel_cancel` is the rule that later requests change nothing: the reason is the first one given.
-/

namespace Provision

/-- A flag that runs look at, and the reason it was raised for. -/
structure Cancellation (V : Type) where
  /-- Whether a stop was requested. -/
  cancelled : Bool
  /-- What the first request gave as its reason. -/
  reason : V

namespace Cancellation

variable {V : Type}

/-- A flag that is not raised. -/
def fresh (nothing : V) : Cancellation V := ⟨false, nothing⟩

/-- Requests a stop; a request after the first is ignored. -/
def cancel (c : Cancellation V) (reason : V) : Cancellation V :=
  if c.cancelled then c else ⟨true, reason⟩

/-- What a request puts into the log: its reason, if it is the first one. -/
def announced (c : Cancellation V) (reason : V) : Option V :=
  if c.cancelled then none else some reason

/-- The reason to stop, if a stop was requested. -/
def due (c : Cancellation V) : Option V := if c.cancelled then some c.reason else none

@[simp]
theorem cancelled_cancel (c : Cancellation V) (r : V) : (c.cancel r).cancelled = true := by
  unfold cancel; split <;> simp_all

/-- Only the first request counts. -/
@[simp]
theorem cancel_cancel (c : Cancellation V) (r s : V) : (c.cancel r).cancel s = c.cancel r := by
  rw [cancel, if_pos (cancelled_cancel c r)]

/-- A request after the first puts nothing into the log. -/
@[simp]
theorem announced_cancel (c : Cancellation V) (r s : V) : (c.cancel r).announced s = none := by
  rw [announced, if_pos (cancelled_cancel c r)]

end Cancellation

end Provision
