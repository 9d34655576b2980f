import Provision.Dialogue

/-!
Lifting: a synchronous program seen as an asynchronous one.

The lifted program suspends where the program beneath suspends. A value sent to it is sent on, an
error thrown into it is thrown on, and closing it closes the program beneath; when that one ends,
the lifted program yields one completion with the final value and is then at its end. While an
error is passed on, it counts as being handled.

`Lifting.Stage` is where a lifted program stands, and each operation asks at most one thing of the
program beneath. Closing does not reach that program at all before the start and after its end.
-/

namespace Provision

namespace Lifting

variable {V E : Type} [ErrorLike E]

/-- Where a lifted program stands. -/
inductive Stage where
  | unstarted
  /-- The program beneath is suspended, and so is the lifted program. -/
  | waiting
  /-- The program beneath has ended, and the completion was yielded. -/
  | delivering
  | finished
  deriving DecidableEq

/-- What a lifted program does when it is resumed. -/
inductive Step (V E : Type) where
  | yields (payload : V)
  /-- It yields the completion with this value. -/
  | delivers (value : V)
  | ends
  | raises (e : E)

/-- What the lifted program makes of the response from beneath. -/
def follow : Signal V E → Stage × Step V E
  | .yields payload => (.waiting, .yields payload)
  | .ends value => (.delivering, .delivers value)
  | .raises e => (.finished, .raises (Boundary.lifting.cross e))

/-- The end of a lifted program by an error of its own. -/
def fail (e : E) : Stage × Step V E := (.finished, .raises (Boundary.lifting.cross e))

/-- Throws an error into a waiting lifted program. The closing signal closes the program beneath
and then comes out; what is no error at all is refused and changes nothing. -/
def throwOn (program : V) (e : E) : Talk V E (Stage × Step V E) :=
  match ErrorLike.nature e with
  | .improper => .done (.waiting, .raises e)
  | .closing =>
    Talk.handling e <| .ask (.close .sync program) fun problem => .done (fail (problem.getD e))
  | _ => Talk.handling e <| .ask (.resume .sync program (.throw e)) fun s => .done (follow s)

/-- Resumes the lifted form of `program`. -/
def resume [ValueLike V] (program : V) :
    Stage → Resumption V E → Talk V E (Stage × Step V E)
  | .unstarted, .send _ =>
    .ask (.resume .sync program (.send ValueLike.nothing)) fun s => .done (follow s)
  | .waiting, .send v => .ask (.resume .sync program (.send v)) fun s => .done (follow s)
  | .delivering, .send _ => .done (.finished, .ends)
  | .waiting, .throw e => throwOn program e
  | .finished, _ => .done (.finished, .ends)
  | stage, .throw e =>
    if ErrorLike.nature e = .improper then .done (stage, .raises e) else .done (fail e)

/-- What is left of an error that came out while closing: the two signals of an orderly end are
dropped. -/
def leftover (e : E) : Option E :=
  match ErrorLike.nature e with
  | .asyncEnded => none
  | .closing => none
  | _ => some e

/-- Closes the lifted form of `program`; the result is the error that comes out. -/
def close (program : V) : Stage → Talk V E (Option E)
  | .waiting =>
    Talk.handling ErrorLike.exit <| .ask (.close .sync program) fun
      | none => .done none
      | some e => .done (leftover (Boundary.lifting.cross e))
  | _ => .done none

end Lifting

end Provision
