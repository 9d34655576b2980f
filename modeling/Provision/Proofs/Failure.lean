import Provision.Proofs.Monitor
import Provision.Script.Value

/-!
Failures: what becomes of a run once something in it has failed.

`Exchange.fails` says which exchanges are failures: an answer brings an error, or it shows a service
to be absent, a payload to be malformed or a program not to be driven. A monitor (`Fate.monitor`)
watches for the first of them. Until then it keeps the program that was driven last; from then on
it keeps the closings, and the error that is going to come out, as long as that is known.

Every part of a level keeps to the monitor (`takeUp_keeps`, `proceed_keeps`, `cycle_keeps`): after a
failure nothing is asked but what leaving takes, the program of the level is closed, and the verdict
is to leave with an error.
-/

namespace Provision

variable {V E : Type} [ErrorLike E]

/-! ### Errors that are stopped -/

/-- What takes the place of an end signal at a boundary is an ordinary error. -/
class LawfulErrorLike (E : Type) [ErrorLike E] : Prop where
  nature_stopped (b : Boundary) (e : E) (h : b.stops (ErrorLike.nature e) = true) :
    ErrorLike.nature (ErrorLike.stopped b e) = .ordinary

/-- The errors of scripts are lawful: what takes the place of an end signal is an error of the
boundary. -/
instance : LawfulErrorLike Script.Fault where
  nature_stopped b e h := by
    cases e with
    | raised n r => rfl
    | stopped | closing | improper | spent => cases b <;> cases h

/-- An error that leaves a level. -/
def Manner.cross (m : Manner) (e : E) : E :=
  match m with
  | .blocking => e
  | .cooperative => Boundary.coroutine.cross e

lemma Manner.out_error (m : Manner) (e : E) : m.out (.error e : Except E V) = .error (m.cross e) := by
  cases m <;> rfl

/-- A boundary lets an error through that it does not stop. -/
lemma Boundary.cross_of_not_stops {b : Boundary} {e : E}
    (he : b.stops (ErrorLike.nature e) = false) : b.cross e = e := by
  simp [Boundary.cross, he]

/-- A level lets everything out but the end signal of a synchronous program. -/
lemma Manner.cross_of_not_ended (m : Manner) {e : E} (he : ErrorLike.nature e ≠ .ended) :
    m.cross e = e := by
  cases m with
  | blocking => rfl
  | cooperative =>
    refine Boundary.cross_of_not_stops ?_
    cases hn : ErrorLike.nature e <;> first | rfl | exact absurd hn he

/-- A lifted program lets everything out but the two end signals. -/
lemma lifting_cross_of_not_ended {e : E} (he : ErrorLike.nature e ≠ .ended)
    (he' : ErrorLike.nature e ≠ .asyncEnded) : Boundary.lifting.cross e = e := by
  refine Boundary.cross_of_not_stops ?_
  cases hn : ErrorLike.nature e <;> first | rfl | exact absurd hn he | exact absurd hn he'

/-- What a boundary has let through it lets through again. -/
lemma Boundary.cross_cross [LawfulErrorLike E] (b : Boundary) (e : E) :
    b.cross (b.cross e) = b.cross e := by
  unfold Boundary.cross
  split
  · next h =>
    have hs : b.stops (ErrorLike.nature (ErrorLike.stopped b e)) = false := by
      rw [LawfulErrorLike.nature_stopped b e h]
      cases b <;> rfl
    simp [hs]
  · simp_all

lemma Manner.cross_cross [LawfulErrorLike E] (m : Manner) (e : E) :
    m.cross (m.cross e) = m.cross e := by
  cases m with
  | blocking => rfl
  | cooperative => exact Boundary.coroutine.cross_cross e

/-! ### Failing exchanges -/

/-- The error that an answer brings. -/
def Request.errorIn : (r : Request V E) → r.Answer → Option E
  | .inspect .., .error e => some e
  | .barred, a => a
  | .due, .failed e => some e
  | .resume .., .raises e => some e
  | .close .., a => a
  | .find _, .failed e => some e
  | .nameOf _, .error e => some e
  | .valueOf _, .error e => some e
  | .report _, a => a
  | .complain _, e => some e
  | .discard _, a => a
  | .build .., .error e => some e
  | _, _ => none

/-- Whether an answer shows that the driver cannot go on: there is no such service, the payload is
malformed, or the program is not one that is driven. -/
def Request.refusesIn (m : Manner) : (r : Request V E) → r.Answer → Bool
  | .inspect _ .payload, .ok t => !t.kind.isOk
  | .inspect _ .program, .ok t => !(m.accept t).isOk
  | .find _, .absent _ => true
  | _, _ => false

/-- Whether something fails in an exchange. A closing signal that comes out of closing is not counted
as a failure: a lifted program drops it. A program that is driven directly does not, so there it
leaves the call nevertheless; generators take it for their orderly end and never let it out. -/
def Exchange.fails (m : Manner) (x : Exchange V E) : Bool :=
  x.request.refusesIn m x.answer ||
    match x.request, x.request.errorIn x.answer with
    | .close .., some e => ErrorLike.nature e ≠ .closing
    | _, some _ => true
    | _, none => false

/-- Whether nothing comes out of a program that is closed in an exchange. -/
def Exchange.calm : Exchange V E → Bool
  | ⟨.close .., some _⟩ => false
  | _ => true

/-! ### Watching for the first failure -/

/-- Programs are closed one after the other, each at least once and several times only in a row. -/
inductive ClosedInTurn : List V → List V → Prop
  | nil : ClosedInTurn [] []
  | once {p : V} {ps cs : List V} : ClosedInTurn ps cs → ClosedInTurn (p :: ps) (p :: cs)
  | again {p : V} {ps cs : List V} : ClosedInTurn (p :: ps) cs → ClosedInTurn (p :: ps) (p :: cs)

lemma ClosedInTurn.append {ps ps' cs cs' : List V} (h : ClosedInTurn ps cs)
    (h' : ClosedInTurn ps' cs') : ClosedInTurn (ps ++ ps') (cs ++ cs') := by
  induction h with
  | nil => exact h'
  | once _ ih => exact .once ih
  | again _ ih => exact .again ih

/-- A program that is closed first may be closed again right after. -/
lemma ClosedInTurn.single {p : V} {cs cs' : List V} (h : ClosedInTurn [p] cs)
    (h' : ClosedInTurn [p] cs') : ClosedInTurn [p] (cs ++ cs') := by
  generalize hps : [p] = ps at h
  induction h with
  | nil => simp at hps
  | once h _ =>
    obtain ⟨rfl, rfl⟩ := List.cons.inj hps
    cases h
    exact .again h'
  | again _ ih =>
    obtain ⟨rfl, rfl⟩ := List.cons.inj hps
    exact .again (ih rfl)

/-- What has become of a run so far. -/
inductive Fate (V E : Type) where
  /-- Nothing has failed, and this program was accepted or resumed last. -/
  | sound (driven : Option V)
  /-- Something has failed. The programs that the level had to close at that moment, what was closed
  since then, and the error that is to come out, if it is known. -/
  | failed (own closed : List V) (error : Option E)

/-- The program that is driven from an exchange on. -/
def Exchange.drives : Exchange V E → Option V → Option V
  | ⟨.inspect p .program, _⟩, _ => some p
  | ⟨.resume _ p _, _⟩, _ => some p
  | _, driven => driven

/-- The program that was driven last in a history. -/
def History.driven (h : History V E) : Option V := h.foldl (fun d x => x.drives d) none

/-- The programs that a level has to close when it fails in an exchange. A program that was refused
is not closed; one that fails while being closed is closed by that. -/
def Exchange.abandons : Exchange V E → Option V → List V
  | ⟨.inspect _ .program, _⟩, _ => []
  | ⟨.close _ p, _⟩, _ => [p]
  | ⟨.resume _ p _, _⟩, _ => [p]
  | _, driven => driven.toList

/-- An error on its way from a program to the level that drives it: driven cooperatively, a
synchronous program is lifted. -/
def Manner.carry (m : Manner) (via : Protocol) (e : E) : E :=
  match m, via with
  | .cooperative, .sync => Boundary.lifting.cross e
  | _, _ => e

/-- The error with which the level is left that fails in an exchange, if no closing raises. -/
def Exchange.outcome (m : Manner) : Exchange V E → Option E
  | ⟨.close .., _⟩ => none
  | ⟨.resume via _ _, .raises e⟩ => some (m.cross (m.carry via e))
  | ⟨q, a⟩ => (q.errorIn a).map m.cross

/-- How things stand after an exchange. -/
def Fate.moves (m : Manner) : Fate V E → Exchange V E → Fate V E
  | .sound driven, x =>
    if x.fails m then .failed (x.abandons driven) x.closes.toList (x.outcome m)
    else .sound (x.drives driven)
  | .failed own closed e, ⟨.close _ p, none⟩ => .failed own (closed ++ [p]) e
  | .failed own closed _, ⟨.close _ p, some _⟩ => .failed own (closed ++ [p]) none
  | fate, _ => fate

/-- The requests that leaving takes: closing, and making an error. -/
def Request.Leaves : Request V E → Prop
  | .close .. | .handle _ | .handled | .discard _ | .complain _ | .report (.notProvided _) => True
  | _ => False

omit [ErrorLike E] in
/-- Whoever leaves looks nothing up. -/
lemma Request.Leaves.ne_find {q : Request V E} (hq : q.Leaves) (name : V) : q ≠ .find name := by
  rintro rfl
  exact hq

omit [ErrorLike E] in
/-- Whoever leaves resumes no program. -/
lemma Request.Leaves.ne_resume {q : Request V E} (hq : q.Leaves) (via : Protocol) (p : V)
    (how : Resumption V E) : q ≠ .resume via p how := by
  rintro rfl
  exact hq

/-- The monitor for the first failure. -/
def Fate.monitor (m : Manner) : Monitor V E (Fate V E) where
  allows
    | .sound _, _ => True
    | .failed .., q => q.Leaves
  moves s x s' := s' = Fate.moves m s x
  turned := id
  turned_turned _ := rfl
  moves_turned _ h := h

/-- How things stand after a history. -/
def Fate.after (m : Manner) (s : Fate V E) (h : History V E) : Fate V E := h.foldl (Fate.moves m) s

section

variable {m : Manner} {driven : Option V} {own closed : List V} {error : Option E}
  {α : Type} {p : Fate V E → α → Prop}

/-- The monitor's state after a history is a function of it. -/
lemma watches_after (s : Fate V E) (h : History V E) :
    (Fate.monitor m).Watches s h (s.after m h) := by
  induction h generalizing s with
  | nil => rfl
  | cons x h ih => exact ⟨_, rfl, ih (Fate.moves m s x)⟩

/-- As long as nothing has failed, anything may be asked. -/
lemma keeps_ask_sound {q : Request V E} {next : q.Answer → Talk V E α} :
    (Talk.ask q next).Keeps (Fate.monitor m) p (.sound driven) ↔
      ∀ a, (next a).Keeps (Fate.monitor m) p (Fate.moves m (.sound driven) ⟨q, a⟩) :=
  ⟨fun h a => h.2 a _ rfl, fun h => ⟨trivial, fun a _ hs => hs ▸ h a⟩⟩

/-- After a failure anything may be asked that leaving takes. -/
lemma keeps_ask_failed {q : Request V E} {next : q.Answer → Talk V E α} (hq : q.Leaves)
    (h : ∀ a, (next a).Keeps (Fate.monitor m) p (Fate.moves m (.failed own closed error) ⟨q, a⟩)) :
    (Talk.ask q next).Keeps (Fate.monitor m) p (.failed own closed error) :=
  ⟨hq, fun a _ hs => hs ▸ h a⟩

@[simp]
lemma keeps_handle {e : E} {next : Unit → Talk V E α} {s : Fate V E} :
    (Talk.ask (.handle e) next).Keeps (Fate.monitor m) p s ↔
      (next ()).Keeps (Fate.monitor m) p s := by
  cases s <;> exact ⟨fun h => h.2 () _ rfl, fun h => ⟨trivial, fun _ _ hs => hs ▸ h⟩⟩

@[simp]
lemma keeps_handled {next : Unit → Talk V E α} {s : Fate V E} :
    (Talk.ask .handled next).Keeps (Fate.monitor m) p s ↔
      (next ()).Keeps (Fate.monitor m) p s := by
  cases s <;> exact ⟨fun h => h.2 () _ rfl, fun h => ⟨trivial, fun _ _ hs => hs ▸ h⟩⟩

@[simp]
lemma keeps_handling {e : E} {t : Talk V E α} {s : Fate V E} :
    (Talk.handling e t).Keeps (Fate.monitor m) p s ↔ t.Keeps (Fate.monitor m) p s := by
  simp [Talk.handling]

lemma keeps_close_failed {via : Protocol} {q : V} {next : Option E → Talk V E α} :
    (Talk.ask (.close via q) next).Keeps (Fate.monitor m) p (.failed own closed error) ↔
      (next none).Keeps (Fate.monitor m) p (.failed own (closed ++ [q]) error) ∧
        ∀ e, (next (some e)).Keeps (Fate.monitor m) p (.failed own (closed ++ [q]) none) := by
  constructor
  · exact fun h => ⟨h.2 none _ rfl, fun e => h.2 (some e) _ rfl⟩
  · rintro ⟨hn, hs⟩
    refine keeps_ask_failed trivial fun a => ?_
    cases a with
    | none => exact hn
    | some e => exact hs e

/-- After a failure the monitor keeps what is closed, and the error unless closing raises. -/
lemma moves_failed (own closed : List V) (error : Option E) (x : Exchange V E) : ∃ error',
    Fate.moves m (.failed own closed error) x = .failed own (closed ++ x.closes.toList) error' ∧
      (x.calm = true → error' = error) := by
  obtain ⟨q, a⟩ := x
  cases q with
  | close via p =>
    cases a with
    | none => exact ⟨error, rfl, fun _ => rfl⟩
    | some e => exact ⟨none, rfl, fun h => by cases h⟩
  | _ => exact ⟨error, congrArg (Fate.failed own · error) (List.append_nil closed).symm, fun _ => rfl⟩

lemma after_failed (h : History V E) (own closed : List V) (error : Option E) : ∃ error',
    (Fate.failed own closed error).after m h = .failed own (closed ++ h.closings) error' ∧
      ((∀ x ∈ h, x.calm = true) → error' = error) := by
  induction h generalizing closed error with
  | nil => exact ⟨error, by simp [History.closings, Fate.after], fun _ => rfl⟩
  | cons x h ih =>
    obtain ⟨error₁, h₁, he₁⟩ := moves_failed (m := m) own closed error x
    obtain ⟨error₂, h₂, he₂⟩ := ih (closed ++ x.closes.toList) error₁
    refine ⟨error₂, ?_, fun hx => ?_⟩
    · rw [History.closings_cons, ← List.append_assoc, ← h₂, ← h₁]
      rfl
    · rw [he₂ fun y hy => hx y (List.mem_cons_of_mem _ hy), he₁ (hx x List.mem_cons_self)]

/-! ### Leaving after a failure -/

/-- How things stand once the program of a level is closed after a failure: an error that was to
come out is still to come out if nothing came out of closing. -/
def Closed (own closed : List V) (error : Option E) (program : V) (s : Fate V E) (a : Option E) :
    Prop :=
  ∃ cs error', ClosedInTurn [program] cs ∧ s = .failed own (closed ++ cs) error' ∧
    ∀ e ∈ error', e ∈ error ∧ a = none

/-- One closing through a protocol, after a failure. -/
lemma close_once_keeps_failed (via : Protocol) (q : V) :
    (Talk.ask (.close via q) .done).Keeps (Fate.monitor m) (Closed own closed error q)
      (.failed own closed error) := by
  refine keeps_close_failed.2 ⟨?_, fun e => ?_⟩
  · exact ⟨[q], error, .once .nil, rfl, fun e he => ⟨he, rfl⟩⟩
  · exact ⟨[q], none, .once .nil, rfl, fun _ he => by cases he⟩

/-- Closing a level keeps to the monitor after a failure. -/
lemma Level.close_keeps_failed (l : Level V) :
    l.close.Keeps (Fate.monitor m) (Closed own closed error l.program)
      (.failed own closed error) := by
  obtain ⟨program, via | stage⟩ := l
  · exact close_once_keeps_failed via program
  · have hlast : ∀ cs error', ClosedInTurn [program] cs → (∀ e ∈ error', e ∈ error) →
        (Talk.ask (.close .sync program) .done).Keeps (Fate.monitor m)
          (Closed own closed error program) (.failed own (closed ++ cs) error') := by
      intro cs error' hcs he
      refine (close_once_keeps_failed .sync program).mono ?_
      rintro _ a ⟨cs', error'', hcs', rfl, he'⟩
      refine ⟨cs ++ cs', error'', hcs.single hcs', by rw [List.append_assoc], fun e h => ?_⟩
      exact ⟨he e (he' e h).1, (he' e h).2⟩
    cases stage with
    | waiting =>
      simp only [Level.close, Lifting.close, Talk.keeps_bind, keeps_handling]
      refine keeps_close_failed.2 ⟨?_, fun e => ?_⟩
      · exact hlast [program] error (.once .nil) fun e he => he
      · show (Talk.done (Lifting.leftover (Boundary.lifting.cross e))).Keeps _ _ _
        rw [Talk.keeps_done]
        split
        · exact ⟨[program], none, .once .nil, rfl, fun _ he => by cases he⟩
        · exact hlast [program] none (.once .nil) fun e he => by cases he
    | _ => exact close_once_keeps_failed .sync program

/-- Leaving a level with an error keeps to the monitor after a failure. -/
lemma finish_keeps_failed (l : Level V) (e : E) :
    (finish m l (.error e)).Keeps (Fate.monitor m) (fun s v => ∃ cs error' e₁,
        ClosedInTurn [l.program] cs ∧ s = .failed own (closed ++ cs) error' ∧
        v = .leave (.error e₁) ∧ ∀ e' ∈ error', e' ∈ error ∧ e₁ = m.cross e)
      (.failed own closed error) := by
  simp only [finish, Talk.keeps_bind, keeps_handling]
  refine (Level.close_keeps_failed l).mono ?_
  rintro _ a ⟨cs, error', hcs, rfl, he⟩
  cases a with
  | none =>
    refine ⟨cs, error', m.cross e, hcs, rfl, ?_, fun e' h => ⟨(he e' h).1, rfl⟩⟩
    rw [Manner.out_error]
  | some e' =>
    refine ⟨cs, error', m.cross e', hcs, rfl, ?_, fun e'' h => ?_⟩
    · rw [Manner.out_error]
    · cases (he e'' h).2

/-! ### The parts of a level -/

/-- How things stand when a level that drives `p` goes on with an error. If something has failed,
at most `p` was closed since then, and an error that is known is this one. -/
def Fate.Errs (m : Manner) (p : V) : Fate V E → E → Prop
  | .sound _, _ => True
  | .failed own closed error, e =>
    own = [p] ∧ (closed = [] ∨ ClosedInTurn [p] closed) ∧ ∀ e' ∈ error, e' = m.cross e

/-- How things stand with the outcome of a part of a level that drives `p`. It is not an error only
if nothing has failed and `p` was driven last. -/
def Fate.Follows (m : Manner) (p : V) (s : Fate V E) : Except E α → Prop
  | .ok _ => s = .sound (some p)
  | .error e => s.Errs m p e

/-- A failure whose error is all that is known of it. -/
lemma errs_failed (q : V) (e : E) : (Fate.failed [q] [] (some (m.cross e))).Errs m q e :=
  ⟨rfl, .inl rfl, fun _ he => (Option.some.inj he).symm⟩

/-- A failure whose error is still to be made. -/
lemma errs_unknown (q : V) (e : E) : (Fate.failed [q] [] none).Errs m q e :=
  ⟨rfl, .inl rfl, fun _ he => by cases he⟩

/-- A lookup either succeeds or fails, and a missing service is complained about after the
failure. -/
lemma lookup_keeps (name q : V) :
    (lookup name).Keeps (Fate.monitor (E := E) m) (fun s a => s.Follows m q a)
      (.sound (some q)) := by
  refine keeps_ask_sound.2 fun a => ?_
  cases a with
  | found v => rfl
  | failed e => exact errs_failed q e
  | absent said =>
    refine keeps_handling.2 (keeps_ask_failed trivial fun a => ?_)
    cases a with
    | some e => exact errs_unknown q e
    | none => exact keeps_ask_failed trivial fun e => errs_unknown q e

/-- A payload is read, or it is malformed and complained about after the failure. -/
lemma classify_keeps (payload q : V) :
    (classify payload).Keeps (Fate.monitor (E := E) m) (fun s a => s.Follows m q a)
      (.sound (some q)) := by
  refine keeps_ask_sound.2 fun a => ?_
  cases a with
  | error e => exact errs_failed q e
  | ok traits =>
    simp only [Fate.moves, Exchange.fails, Request.refusesIn, Request.errorIn, Bool.or_false]
    cases traits.kind with
    | ok kind => rfl
    | error why =>
      cases why with
      | uncalled => exact keeps_ask_failed trivial fun e => errs_unknown q e
      | coroutine =>
        refine keeps_ask_failed trivial fun a => ?_
        cases a with
        | some e => exact errs_unknown q e
        | none => exact keeps_ask_failed trivial fun e => errs_unknown q e

/-- Whether the program of a level has suspended when driven in this manner. -/
def Level.Suspended (m : Manner) (l : Level V) : Prop :=
  match m, l.drive with
  | .blocking, .inl .sync => True
  | .cooperative, .inl .async => True
  | .cooperative, .inr stage => stage = .waiting
  | _, _ => False

/-- Whether the program of a level can be resumed in this way when driven in this manner. -/
def Level.Takes (m : Manner) (l : Level V) (how : Resumption V E) : Prop :=
  l.Suspended m ∨ m = .cooperative ∧ l.drive = .inr .unstarted ∧ ∃ v, how = .send v

/-- Which verdicts a level may come to. After a failure it can only leave with an error, and what it
had to close was closed; an error that is known comes out and gets through every further level. -/
def Fate.Approves (m : Manner) : Fate V E → Verdict V E → Prop
  | .sound _, .again l how => l.Takes m how
  | .sound _, .enter l _ => l.Suspended m
  | .sound _, .leave _ => True
  | .failed own closed error, v =>
    ∃ e, v = .leave (.error e) ∧ ClosedInTurn own closed ∧ ∀ e' ∈ error, e = e' ∧ m.cross e' = e'

/-- A closing signal that comes out of closing is no failure. -/
lemma moves_close_closing {via : Protocol} {q : V} {e : E} (he : ErrorLike.nature e = .closing) :
    Fate.moves m (.sound driven) ⟨.close via q, some e⟩ = .sound driven := by
  simp [Fate.moves, Exchange.fails, Request.refusesIn, Request.errorIn, he, Exchange.drives]

/-- Any other error that comes out of closing is a failure. -/
lemma moves_close_failing {via : Protocol} {q : V} {e : E} (he : ErrorLike.nature e ≠ .closing) :
    Fate.moves m (.sound driven) ⟨.close via q, some e⟩ = .failed [q] [q] none := by
  simp [Fate.moves, Exchange.fails, Request.refusesIn, Request.errorIn, he, Exchange.abandons,
    Exchange.closes, Exchange.outcome]

/-- Leaving with the error of a complaint about a program. -/
lemma complain_keeps (c : Complaint V) :
    (Talk.ask (.complain c) fun e => Talk.done (Verdict.leave (m.out (.error e)))).Keeps
      (Fate.monitor (E := E) m) (Fate.Approves m) (.failed [] [] none) := by
  refine keeps_ask_failed trivial fun e => ?_
  simp only [Manner.out_error]
  exact ⟨_, rfl, .nil, fun _ he => by cases he⟩

/-- How things stand once a program is closed while nothing had failed: if that failed, an error came
out. -/
def ClosedSound (q : V) (s : Fate V E) (a : Option E) : Prop :=
  (∃ d, s = .sound d) ∨ s = .failed [q] [q] none ∧ ∃ e, a = some e

/-- One closing through a protocol, while nothing has failed. -/
lemma close_once_keeps_sound (via : Protocol) (q : V) :
    (Talk.ask (.close via q) .done).Keeps (Fate.monitor (E := E) m) (ClosedSound q)
      (.sound driven) := by
  refine keeps_ask_sound.2 fun a => ?_
  cases a with
  | none => exact .inl ⟨driven, rfl⟩
  | some e =>
    by_cases he : ErrorLike.nature e = .closing
    · rw [moves_close_closing he]
      exact .inl ⟨driven, rfl⟩
    · rw [moves_close_failing he]
      exact .inr ⟨rfl, e, rfl⟩

variable [LawfulErrorLike E]

/-- An end signal is stopped where a lifted program is left, so only the closing signal is dropped. -/
lemma leftover_cross (e : E) : Lifting.leftover (Boundary.lifting.cross e) =
    if ErrorLike.nature e = .closing then none else some (Boundary.lifting.cross e) := by
  unfold Boundary.cross
  split
  · next h =>
    rw [Lifting.leftover, LawfulErrorLike.nature_stopped _ _ h]
    have : ErrorLike.nature e ≠ .closing := fun hc => by simp [hc, Boundary.stops] at h
    simp [this]
  · next h =>
    cases hn : ErrorLike.nature e <;> simp_all [Lifting.leftover, Boundary.stops]

/-- Closing a level while nothing has failed: if that fails, an error comes out. -/
lemma Level.close_keeps_sound (l : Level V) :
    l.close.Keeps (Fate.monitor (E := E) m) (ClosedSound l.program) (.sound driven) := by
  obtain ⟨program, via | stage⟩ := l
  · exact close_once_keeps_sound via program
  · cases stage with
    | waiting =>
      simp only [Level.close, Lifting.close, Talk.keeps_bind, keeps_handling]
      refine keeps_ask_sound.2 fun a => ?_
      cases a with
      | none => exact close_once_keeps_sound .sync program
      | some e =>
        show (Talk.done (Lifting.leftover (Boundary.lifting.cross e))).Keeps _ _ _
        rw [Talk.keeps_done, leftover_cross]
        by_cases he : ErrorLike.nature e = .closing
        · rw [moves_close_closing he, if_pos he]
          exact close_once_keeps_sound .sync program
        · rw [moves_close_failing he, if_neg he]
          exact .inr ⟨rfl, _, rfl⟩
    | _ => exact close_once_keeps_sound .sync program

/-- Leaving a level with an outcome that it has come to. -/
lemma finish_keeps (l : Level V) (result : Except E V) {s : Fate V E}
    (hs : s.Follows m l.program result) :
    (finish m l result).Keeps (Fate.monitor m) (Fate.Approves m) s := by
  cases s with
  | sound driven =>
    unfold finish
    rw [Talk.keeps_bind]
    refine Talk.Keeps.mono (p := ClosedSound l.program) ?_ ?_
    · cases result with
      | ok v => exact Level.close_keeps_sound l
      | error e => exact keeps_handling.2 (Level.close_keeps_sound l)
    · rintro _ a (⟨d, rfl⟩ | ⟨rfl, e, rfl⟩)
      · cases a <;> trivial
      · rw [Talk.keeps_done, Manner.out_error]
        exact ⟨_, rfl, .once .nil, fun e he => by cases he⟩
  | failed own closed error =>
    cases result with
    | ok v => cases hs
    | error e =>
      obtain ⟨rfl, hclosed, he⟩ := hs
      refine (finish_keeps_failed l e).mono ?_
      rintro _ _ ⟨cs, error', e₁, hcs, rfl, rfl, he'⟩
      refine ⟨e₁, rfl, ?_, fun e' h => ?_⟩
      · obtain rfl | hclosed := hclosed
        · exact hcs
        · exact hclosed.single hcs
      · obtain ⟨hmem, rfl⟩ := he' e' h
        obtain rfl := he e' hmem
        exact ⟨rfl, m.cross_cross e⟩

/-- A record that cannot be put into the log is a failure of the level. -/
lemma reporting_keeps (l : Level V) (r : Report V) {next : Talk V E (Verdict V E)}
    (hnext : next.Keeps (Fate.monitor m) (Fate.Approves m) (.sound (some l.program))) :
    (reporting m l r next).Keeps (Fate.monitor m) (Fate.Approves m)
      (.sound (some l.program)) := by
  refine keeps_ask_sound.2 fun a => ?_
  cases a with
  | none => exact hnext
  | some e => exact finish_keeps l (.error e) (errs_failed l.program e)

/-- Leaving with a final value. -/
lemma deliver_keeps (l : Level V) {value : Talk V E (Except E V)}
    (hvalue : value.Keeps (Fate.monitor m) (fun s a => s.Follows m l.program a)
      (.sound (some l.program))) :
    (deliver m l value).Keeps (Fate.monitor m) (Fate.Approves m) (.sound (some l.program)) :=
  reporting_keeps l _ <| (Talk.keeps_bind value).2 <|
    hvalue.mono fun _ a ha => finish_keeps l a ha

/-- Looking at the cancellation before an answer. -/
lemma unlessDue_keeps (l : Level V) (hl : l.Suspended m) {answer : Talk V E (Verdict V E)}
    (hanswer : answer.Keeps (Fate.monitor m) (Fate.Approves m) (.sound (some l.program))) :
    (unlessDue m l answer).Keeps (Fate.monitor m) (Fate.Approves m)
      (.sound (some l.program)) := by
  refine keeps_ask_sound.2 fun a => ?_
  cases a with
  | goOn => exact hanswer
  | stop how => exact .inl hl
  | failed e => exact finish_keeps l (.error e) (errs_failed l.program e)

/-- Answering a payload. -/
lemma settle_keeps (l : Level V) (hl : l.Suspended m) (payload : V) (kind : Kind) :
    (settle m l payload kind).Keeps (Fate.monitor (E := E) m) (Fate.Approves m)
      (.sound (some l.program)) := by
  cases kind with
  | completion =>
    refine deliver_keeps l (keeps_ask_sound.2 fun a => ?_)
    cases a with
    | ok v => rfl
    | error e => exact errs_failed l.program e
  | nested => exact unlessDue_keeps l hl (reporting_keeps l _ hl)
  | passthrough => exact unlessDue_keeps l hl (reporting_keeps l _ (.inl hl))
  | service =>
    refine unlessDue_keeps l hl (keeps_ask_sound.2 fun a => ?_)
    cases a with
    | error e => exact finish_keeps l (.error e) (errs_failed l.program e)
    | ok name =>
      refine (Talk.keeps_bind _).2 ((lookup_keeps name l.program).mono fun s a ha => ?_)
      cases a with
      | error e => exact finish_keeps l (.error e) ha
      | ok v =>
        obtain rfl : s = .sound (some l.program) := ha
        exact reporting_keeps l _ (.inl hl)

variable [ValueLike V]

/-- How things stand once the program of a level has responded: one that has suspended or ended was
driven last and its level can go on; one that has failed leads to an error. -/
def Fate.Responds (m : Manner) (q : V) (s : Fate V E) (o : Level V × Response V E) : Prop :=
  o.1.program = q ∧
    match o.2 with
    | .yields _ => s = .sound (some q) ∧ o.1.Suspended m
    | .ends _ => s = .sound (some q)
    | .raises e => s.Errs m q e

omit [LawfulErrorLike E] in
/-- Resuming a lifted program. -/
lemma lifted_resume_keeps (q : V) (how : Resumption V E) :
    (Talk.ask (.resume .sync q how) fun a => Talk.done (Lifting.follow a)).Keeps
      (Fate.monitor .cooperative)
      (fun s o => s.Responds .cooperative q (⟨q, .inr o.1⟩, o.2.response)) (.sound driven) := by
  refine keeps_ask_sound.2 fun a => ?_
  cases a with
  | yields payload => exact ⟨rfl, rfl, rfl⟩
  | ends value => exact ⟨rfl, rfl⟩
  | raises e => exact ⟨rfl, errs_failed q (Boundary.lifting.cross e)⟩

omit [LawfulErrorLike E] in
/-- Throwing an error into a lifted program. -/
lemma throwOn_keeps (q : V) (e : E) :
    (Lifting.throwOn q e).Keeps (Fate.monitor .cooperative)
      (fun s o => s.Responds .cooperative q (⟨q, .inr o.1⟩, o.2.response)) (.sound driven) := by
  unfold Lifting.throwOn
  split
  · exact ⟨rfl, trivial⟩
  · refine keeps_handling.2 (keeps_ask_sound.2 fun a => ?_)
    cases a with
    | none => exact ⟨rfl, trivial⟩
    | some e' =>
      by_cases he : ErrorLike.nature e' = .closing
      · rw [moves_close_closing he]
        exact ⟨rfl, trivial⟩
      · rw [moves_close_failing he]
        exact ⟨rfl, rfl, .inr (.once .nil), fun _ h => by cases h⟩
  · exact keeps_handling.2 (lifted_resume_keeps q (.throw e))

omit [LawfulErrorLike E] in
/-- Resuming the program of a level. -/
lemma Level.resume_keeps (l : Level V) (how : Resumption V E) (hl : l.Takes m how) :
    (l.resume how).Keeps (Fate.monitor m) (Fate.Responds m l.program) (.sound driven) := by
  obtain ⟨program, via | stage⟩ := l
  · have hcarry : ∀ e : E, m.carry via e = e := by
      intro e
      obtain hl | ⟨-, hl, -⟩ := hl
      · cases m <;> cases via <;> first | rfl | cases hl
      · cases hl
    have hl' : Level.Suspended m ⟨program, .inl via⟩ := hl.resolve_right fun h => by cases h.2.1
    refine keeps_ask_sound.2 fun a => ?_
    cases a with
    | yields payload => cases via <;> exact ⟨rfl, rfl, hl'⟩
    | ends value => cases via <;> exact ⟨rfl, rfl⟩
    | raises e =>
      have he : Fate.moves m (.sound driven) ⟨.resume via program how, .raises e⟩ =
          .failed [program] [] (some (m.cross (m.carry via e))) := rfl
      rw [hcarry] at he
      cases via <;> exact ⟨rfl, he ▸ errs_failed program e⟩
  · unfold Level.resume
    rw [Talk.keeps_bind]
    obtain hl | ⟨rfl, hl, v, rfl⟩ := hl
    · cases m with
      | blocking => cases hl
      | cooperative =>
        obtain rfl : stage = .waiting := hl
        cases how with
        | send v => exact lifted_resume_keeps program (.send v)
        | throw e => exact throwOn_keeps program e
    · obtain rfl := Sum.inr.inj hl
      exact lifted_resume_keeps program (.send ValueLike.nothing)

/-- A cycle of a level keeps to the monitor. -/
lemma cycle_keeps (l : Level V) (how : Resumption V E) (hl : l.Takes m how) :
    (cycle m l how).Keeps (Fate.monitor m) (Fate.Approves m) (.sound driven) := by
  refine (Talk.keeps_bind _).2 ((l.resume_keeps how hl).mono ?_)
  rintro s ⟨l', a⟩ ⟨hp, ha⟩
  have hp : l'.program = l.program := hp
  rw [← hp] at ha
  cases a with
  | raises e => exact finish_keeps l' (.error e) ha
  | ends value =>
    obtain rfl : s = .sound (some l'.program) := ha
    exact deliver_keeps l' rfl
  | yields payload =>
    obtain ⟨rfl, hl'⟩ := ha
    refine (Talk.keeps_bind _).2 ((classify_keeps payload l'.program).mono fun s a ha => ?_)
    cases a with
    | error e => exact finish_keeps l' (.error e) ha
    | ok kind =>
      obtain rfl : s = .sound (some l'.program) := ha
      exact settle_keeps l' hl' payload kind

omit [ErrorLike E] [LawfulErrorLike E] in
/-- A program that was accepted can be resumed for the first time. -/
lemma opened_takes {traits : Traits} {form : Form} (h : m.accept traits = .ok form) (q : V) :
    (Level.opened q form).Takes m (.send ValueLike.nothing : Resumption V E) := by
  unfold Manner.accept at h
  cases m with
  | blocking =>
    refine .inl ?_
    cases ha : traits.async <;> cases hs : traits.sync <;> simp only [ha, hs] at h <;> cases h
    trivial
  | cooperative =>
    cases ha : traits.async with
    | true =>
      simp only [ha] at h
      cases h
      exact .inl trivial
    | false =>
      cases hs : traits.sync <;> simp only [ha, hs] at h <;> cases h
      exact .inr ⟨rfl, rfl, _, rfl⟩

/-- Taking up a program keeps to the monitor. -/
lemma takeUp_keeps (q : V) :
    (takeUp m q).Keeps (Fate.monitor (E := E) m) (Fate.Approves m) (.sound driven) := by
  refine keeps_ask_sound.2 fun a => ?_
  cases a with
  | error e =>
    simp only [Manner.out_error]
    exact ⟨_, rfl, .nil, fun e' he => ⟨Option.some.inj he, Option.some.inj he ▸ m.cross_cross e⟩⟩
  | ok traits =>
    simp only [Fate.moves, Exchange.fails, Request.refusesIn, Request.errorIn, Bool.or_false]
    cases ha : m.accept traits with
    | error why => exact complain_keeps (.refused q why)
    | ok form =>
      refine keeps_ask_sound.2 fun a => ?_
      have hp : (Level.opened q form).program = q := by cases form <;> rfl
      cases a with
      | none => exact opened_takes ha q
      | some e =>
        refine finish_keeps (Level.opened q form) (.error e) ?_
        rw [hp]
        exact errs_failed q e

/-- Going on with a level whose nested program has come to a result. -/
lemma proceed_keeps (l : Level V) (hl : l.Suspended m) (result : Except E V) :
    (proceed m l result).Keeps (Fate.monitor m) (Fate.Approves m) (.sound driven) := by
  cases result with
  | ok v => exact cycle_keeps l (.send v) (.inl hl)
  | error e => exact finish_keeps l (.error e) trivial

/-! ### Until the first failure -/

/-- Which verdicts are approved among the levels that wait. -/
def Fate.Settles (m : Manner) (s : Fate V E) (waiting : List (Level V)) (v : Verdict V E) : Prop :=
  s.Approves m v ∧ ∀ l ∈ waiting, l.Suspended m

/-- The verdicts of a sound level lead to runs that keep to the monitor. -/
lemma next_keeps_sound {waiting : List (Level V)} {v : Verdict V E}
    (hv : (Fate.sound driven).Settles m waiting v) :
    (v.next m waiting).Keeps (Fate.monitor m) (Fate.Settles m) (fun _ _ => True)
      (.sound driven) := by
  obtain ⟨hv, hw⟩ := hv
  cases v with
  | again l how => exact (cycle_keeps l how hv).mono fun s v hs => ⟨hs, hw⟩
  | enter l nested =>
    refine (takeUp_keeps nested).mono fun s v hs => ⟨hs, ?_⟩
    rintro l' (_ | ⟨_, hl'⟩)
    · exact hv
    · exact hw l' hl'
  | leave result =>
    cases waiting with
    | nil => trivial
    | cons l rest =>
      exact (proceed_keeps l (hw l List.mem_cons_self) result).mono fun s v hs =>
        ⟨hs, fun l' hl' => hw l' (List.mem_cons_of_mem _ hl')⟩

/-- A run in which nothing has failed keeps to the monitor, which knows the program that was driven
last. -/
lemma Run.Goes.keeps_sound {r r' : Run V E} {h : History V E} (hr : r.Goes m h r')
    (hh : ∀ x ∈ h, x.fails m = false) {driven : Option V}
    (hs : r.Keeps (Fate.monitor m) (Fate.Settles m) (fun _ _ => True) (.sound driven)) :
    r'.Keeps (Fate.monitor m) (Fate.Settles m) (fun _ _ => True)
      (.sound (h.foldl (fun d x => x.drives d) driven)) := by
  induction hr generalizing driven with
  | here r => exact hs
  | decided _ ih => exact ih hh (next_keeps_sound hs)
  | @answered waiting q next h r a _ ih =>
    have hx : Fate.moves m (.sound driven) ⟨q, a⟩ = .sound ((⟨q, a⟩ : Exchange V E).drives driven) := by
      simp [Fate.moves, hh _ List.mem_cons_self]
    have hn := keeps_ask_sound.1 hs a
    rw [hx] at hn
    exact ih (fun y hy => hh y (List.mem_cons_of_mem _ hy)) hn

/-- The run of a program keeps to the monitor. -/
lemma start_keeps (q : V) : (Run.start m q).Keeps (Fate.monitor (E := E) m) (Fate.Settles m)
    (fun _ _ => True) (.sound none) :=
  (takeUp_keeps q).mono fun _ _ hs => ⟨hs, fun _ hl => by cases hl⟩

/-! ### From the first failure on -/

/-- Which verdicts are approved after a failure: the level is left with an error, and of all the
programs that are to be closed only those of the waiting levels are left. -/
def Fate.Unwinds (m : Manner) (all : List V) (s : Fate V E) (waiting : List (Level V))
    (v : Verdict V E) : Prop :=
  ∃ own closed error e done, s = .failed own closed error ∧ v = .leave (.error e) ∧
    all = done ++ waiting.map (·.program) ∧ ClosedInTurn done closed ∧
    ∀ e' ∈ error, e = e' ∧ m.cross e' = e'

/-- How a run has to end after a failure. -/
def Fate.Unwound (all : List V) (s : Fate V E) (result : Except E V) : Prop :=
  ∃ own closed error e, s = .failed own closed error ∧ result = .error e ∧
    ClosedInTurn all closed ∧ ∀ e' ∈ error, e = e'

omit [LawfulErrorLike E] in
/-- Once a level is left after a failure, the next one is left as well. -/
lemma next_keeps_failed {all : List V} (s : Fate V E) (waiting : List (Level V)) (v : Verdict V E)
    (hv : s.Unwinds m all waiting v) :
    (v.next m waiting).Keeps (Fate.monitor m) (Fate.Unwinds m all) (Fate.Unwound all) s := by
  obtain ⟨own, closed, error, e, done, rfl, rfl, hall, hclosed, he⟩ := hv
  cases waiting with
  | nil =>
    refine ⟨own, closed, error, e, rfl, rfl, ?_, fun e' h => (he e' h).1⟩
    rw [hall, List.map_nil, List.append_nil]
    exact hclosed
  | cons l rest =>
    refine (finish_keeps_failed l e).mono ?_
    rintro _ _ ⟨cs, error', e₁, hcs, rfl, rfl, he'⟩
    refine ⟨own, _, error', e₁, done ++ [l.program], rfl, rfl, ?_, hclosed.append hcs, ?_⟩
    · rw [hall, List.map_cons, List.append_assoc, List.singleton_append]
    · intro e' h
      obtain ⟨hmem, rfl⟩ := he' e' h
      obtain ⟨rfl, hcross⟩ := he e' hmem
      exact ⟨hcross, hcross⟩

omit [LawfulErrorLike E] in
/-- After a failure a run comes to its end with any host. -/
lemma Run.ends_failed {σ : Type} (host : Host V E σ) {all : List V} {r : Run V E} {s : Fate V E}
    (hr : r.Keeps (Fate.monitor m) (Fate.Unwinds m all) (Fate.Unwound all) s) (t : σ) :
    ∃ h t' result, host.Answers t h t' ∧ r.Goes m h (.over result) := by
  obtain ⟨waiting, talk⟩ | result := r
  · induction waiting generalizing talk s t with
    | nil =>
      obtain ⟨h, v, t', hs, hv⟩ := host.comes talk t
      obtain ⟨own, closed, error, e, done, -, rfl, -⟩ := hr.comes hv (watches_after s h)
      have hg : Run.Goes m (.active [] talk) (h ++ []) (.over (.error e)) := .of_comes hv (.here _)
      rw [List.append_nil] at hg
      exact ⟨h, t', .error e, hs, hg⟩
    | cons l rest ih =>
      obtain ⟨h, v, t', hs, hv⟩ := host.comes talk t
      have hun := hr.comes hv (watches_after s h)
      have hnext := next_keeps_failed _ _ v hun
      obtain ⟨own, closed, error, e, done, -, rfl, -⟩ := hun
      obtain ⟨h', t'', result, hs', hg⟩ := ih t' (proceed m l (.error e)) hnext
      exact ⟨h ++ h', t'', result, hs.append hs', .of_comes hv hg⟩
  · exact ⟨[], t, result, rfl, .here _⟩

omit [LawfulErrorLike E] in
/-- A run that unwinds asks for nothing but what leaving takes, and unwinds to the end. -/
lemma Run.Goes.unwinds {all : List V} {r r' : Run V E} {h : History V E} (hg : r.Goes m h r')
    (hr : r.Keeps (Fate.monitor m) (Fate.Unwinds m all) (Fate.Unwound all)
      (.failed own closed error)) :
    (∀ y ∈ h, y.request.Leaves) ∧ ∃ error', ((∀ y ∈ h, y.calm = true) → error' = error) ∧
      r'.Keeps (Fate.monitor m) (Fate.Unwinds m all) (Fate.Unwound all)
        (.failed own (closed ++ h.closings) error') := by
  constructor
  · intro y hy
    obtain ⟨h₁, h₂, rfl⟩ := List.append_of_mem hy
    have hallows := or_self_iff.1 (hg.allows next_keeps_failed (watches_after _ h₁) (.inl hr))
    obtain ⟨error₁, h₁, -⟩ := after_failed (m := m) h₁ own closed error
    rw [h₁] at hallows
    exact hallows
  · obtain ⟨error', h', hcalm⟩ := after_failed (m := m) h own closed error
    refine ⟨error', hcalm, ?_⟩
    rw [← h']
    exact or_self_iff.1 (hg.keeps next_keeps_failed (watches_after _ h) (.inl hr))

section

variable {all : List V} {r : Run V E}

omit [LawfulErrorLike E] in
/-- Once a run that unwinds is over, all is closed, and its result is the error that was on the way,
unless something came out of the programs that were closed. -/
lemma Run.Goes.unwound {h : History V E} {result : Except E V} (hg : r.Goes m h (.over result))
    (hr : r.Keeps (Fate.monitor m) (Fate.Unwinds m all) (Fate.Unwound all)
      (.failed own closed error)) :
    ∃ e, result = .error e ∧ ClosedInTurn all (closed ++ h.closings) ∧
      ((∀ y ∈ h, y.calm = true) → ∀ e' ∈ error, e = e') := by
  obtain ⟨-, error', hcalm, _, _, _, e, hstate, rfl, hclosed, he⟩ := hg.unwinds hr
  cases hstate
  refine ⟨e, rfl, hclosed, fun hy => ?_⟩
  rw [← hcalm hy]
  exact he

omit [LawfulErrorLike E] in
/-- A run that unwinds comes to an error with any host, and then all is closed. -/
lemma Run.unwinds_with {σ : Type} (host : Host V E σ)
    (hr : r.Keeps (Fate.monitor m) (Fate.Unwinds m all) (Fate.Unwound all)
      (.failed own closed error)) (t : σ) :
    ∃ h t' e, host.Answers t h t' ∧ r.Goes m h (.over (.error e)) ∧
      ClosedInTurn all (closed ++ h.closings) := by
  obtain ⟨h, t', result, hs, hover⟩ := Run.ends_failed host hr t
  obtain ⟨e, rfl, hclosed, -⟩ := hover.unwound hr
  exact ⟨h, t', e, hs, hover, hclosed⟩

omit [LawfulErrorLike E] in
/-- What was closed so far is closed in turn, and nothing is left to be closed when the run is over. -/
lemma Run.unwinds_in_turn
    (hr : r.Keeps (Fate.monitor m) (Fate.Unwinds m all) (Fate.Unwound all)
      (.failed own closed error)) :
    ∃ later, ClosedInTurn all (closed ++ later) ∧ ((∃ result, r = .over result) → later = []) := by
  let host : Host V E Unit := fun q => pure (Classical.choice q.nonempty_answer)
  obtain ⟨h, -, e, -, hover, hclosed⟩ := Run.unwinds_with host hr ()
  refine ⟨h.closings, hclosed, ?_⟩
  rintro ⟨result, rfl⟩
  obtain ⟨rfl, -⟩ := hover.of_over
  rfl

omit [LawfulErrorLike E] in
/-- A run that unwinds is conducted to an error with any host, if there is fuel enough. -/
lemma Run.conduct_unwinds {σ : Type} (host : Host V E σ)
    (hr : r.Keeps (Fate.monitor m) (Fate.Unwinds m all) (Fate.Unwound all)
      (.failed own closed error)) (t : σ) :
    ∃ fuel e, (r.conduct m host fuel t).1 = some (.error e) := by
  obtain ⟨h, t', e, hs, hover, -⟩ := Run.unwinds_with host hr t
  obtain ⟨fuel, hfuel⟩ := Run.conduct_of_goes hover hs
  exact ⟨fuel, e, by rw [hfuel]⟩

end

/-- The history of a run goes on after a failure only with what leaving takes, and the run can
always be taken to its end from there. -/
lemma Run.Goes.after_failure {q : V} {before after : History V E} {x : Exchange V E} {run : Run V E}
    (hg : (Run.start m q).Goes m (before ++ x :: after) run)
    (hb : ∀ y ∈ before, y.fails m = false) (hx : x.fails m = true) :
    ∃ waiting next error, (Run.start m q).Goes m before (.active waiting (.ask x.request next)) ∧
      (∀ y ∈ after, y.request.Leaves) ∧ ((∀ y ∈ after, y.calm = true) → error = x.outcome m) ∧
      run.Keeps (Fate.monitor m)
        (Fate.Unwinds m (x.abandons before.driven ++ waiting.map (·.program)))
        (Fate.Unwound (x.abandons before.driven ++ waiting.map (·.program)))
        (.failed (x.abandons before.driven) (History.closings (x :: after)) error) := by
  obtain ⟨r, hbefore, hafter⟩ := hg.split
  obtain ⟨waiting, next, hask, hnext⟩ := hafter.cons_inv
  have hat := hbefore.append hask
  rw [List.append_nil] at hat
  have hr := hat.keeps_sound hb (start_keeps q)
  -- At the failure the waiting levels are settled, and so is what the level itself has to close.
  have hx' : Fate.moves m (.sound before.driven) x =
      .failed (x.abandons before.driven) x.closes.toList (x.outcome m) := by
    rw [Fate.moves, if_pos hx]
  have hn : (next x.answer).Keeps (Fate.monitor m) (fun s v => s.Settles m waiting v)
      (Fate.moves m (.sound before.driven) x) := keeps_ask_sound.1 hr x.answer
  rw [hx'] at hn
  have hun : (next x.answer).Keeps (Fate.monitor m) (fun s v =>
      s.Unwinds m (x.abandons before.driven ++ waiting.map (·.program)) waiting v)
      (.failed (x.abandons before.driven) x.closes.toList (x.outcome m)) := by
    refine (hn.and_of_moves (R := fun s => ∃ closed error,
      s = .failed (x.abandons before.driven) closed error) ?_ ⟨_, _, rfl⟩).mono ?_
    · rintro _ y _ rfl ⟨closed, error, rfl⟩
      obtain ⟨error', hy, -⟩ := moves_failed (m := m) (x.abandons before.driven) closed error y
      exact ⟨_, error', hy⟩
    · rintro _ v ⟨hv, closed, error, rfl⟩
      obtain ⟨⟨e, rfl, hclosed, he⟩, -⟩ := hv
      exact ⟨_, closed, error, e, _, rfl, rfl, rfl, hclosed, he⟩
  obtain ⟨hleaves, error, hcalm, hkeeps⟩ := hnext.unwinds hun
  refine ⟨waiting, next, error, hat, hleaves, hcalm, ?_⟩
  rw [History.closings_cons]
  exact hkeeps

end

end Provision
