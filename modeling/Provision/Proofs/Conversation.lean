import Provision.Proofs.Failure
import Provision.Cancellation

/-!
Conversations: what a run can say next while its cancellation may be raised.

A run that shares a cancellation is told about it when it asks (`Stopper.Answers`), and the flag may
be raised while any request is being answered, except while the name of a token is read.
`Turn` says where the conversation of a run with its host stands, as far as can be told from the
exchanges, and `Turn.allows` what may be asked next: after a program has yielded, its payload is
inspected, then the cancellation, and if a stop is due the error is thrown into that program; after
it has ended, the end is reported, the program is closed, and the value is handed on. A name is
looked up, and a program is resumed for the first time, only while the flag is not raised.

* `Stopper.conversation`: the monitor of all this;
* `takeUp_converses`, `cycle_converses`, `proceed_converses`: every part of a level keeps to it;
* `Run.Goes.converses`: so does every run.
-/

namespace Provision

variable {V E : Type}

/-! ### Flags that are shared -/

/-- What may become of a flag in time. -/
def Cancellation.Grows (c c' : Cancellation V) : Prop := c' = c ∨ ∃ r, c' = c.cancel r

lemma Cancellation.Grows.trans {c c' c'' : Cancellation V} (h : c.Grows c') (h' : c'.Grows c'') :
    c.Grows c'' := by
  obtain rfl | ⟨r, rfl⟩ := h
  · exact h'
  · obtain rfl | ⟨s, rfl⟩ := h'
    · exact .inr ⟨r, rfl⟩
    · exact .inr ⟨r, Cancellation.cancel_cancel c r s⟩

/-- The errors that say of a run that it was stopped for a reason. They are errors like any other. -/
structure Stopper (V E : Type) [ErrorLike E] where
  tells : V → E → Prop
  ordinary {reason : V} {e : E} : tells reason e → ErrorLike.nature e = .ordinary

/-- Whether an exchange is right about a flag. -/
def Stopper.Answers [ErrorLike E] (k : Stopper V E) (flag : Cancellation V) : Exchange V E → Prop
  | ⟨.barred, a⟩ =>
    match flag.due with
    | none => a = none
    | some reason => ∃ e, k.tells reason e ∧ a = some e
  | ⟨.due, a⟩ =>
    match flag.due with
    | none => a = .goOn
    | some reason => ∃ e, k.tells reason e ∧ a = .stop (.throw e)
  | _ => True

section

variable [ErrorLike E] {k : Stopper V E} {flag : Cancellation V}

lemma answers_barred_of_lowered (hf : flag.cancelled = false) {a : Option E} :
    k.Answers flag ⟨.barred, a⟩ ↔ a = none := by
  simp [Stopper.Answers, Cancellation.due, hf]

lemma answers_barred_of_raised (hf : flag.cancelled = true) {a : Option E} :
    k.Answers flag ⟨.barred, a⟩ ↔ ∃ e, k.tells flag.reason e ∧ a = some e := by
  simp [Stopper.Answers, Cancellation.due, hf]

lemma answers_due_of_lowered (hf : flag.cancelled = false) {a : Due V E} :
    k.Answers flag ⟨.due, a⟩ ↔ a = .goOn := by
  simp [Stopper.Answers, Cancellation.due, hf]

lemma answers_due_of_raised (hf : flag.cancelled = true) {a : Due V E} :
    k.Answers flag ⟨.due, a⟩ ↔ ∃ e, k.tells flag.reason e ∧ a = .stop (.throw e) := by
  simp [Stopper.Answers, Cancellation.due, hf]

end

/-! ### Turns -/

/-- Where the conversation of a run stands. -/
inductive Turn (V E : Type) where
  /-- Nothing was said yet. -/
  | outside
  /-- A program was looked at, and it was not asked yet whether it may start. -/
  | accepted (p : V)
  /-- A program may be resumed for the first time. -/
  | admitted (p : V)
  /-- A program may not start; it is to be closed, and this error comes out. -/
  | barring (p : V) (e : E)
  /-- A program that may not start was closed. -/
  | excluded (e : E)
  | suspended (via : Protocol) (p payload : V)
  /-- The payload was read, and it is one that is answered. -/
  | asked (via : Protocol) (p : V)
  | answering (via : Protocol) (p : V)
  /-- A stop was due, and this error is to be thrown. -/
  | stopping (via : Protocol) (p : V) (e : E)
  | ended (p value : V)
  /-- A program has yielded a completion. -/
  | completing (p payload : V)
  /-- The end was reported, and the value of the completion is still to be asked for. -/
  | valuing (p payload : V)
  /-- The program is being closed, and then the value goes to whoever waits for it. -/
  | leaving (p value : V)
  /-- The program was closed, and the value is handed on. -/
  | handing (value : V)
  /-- The program has come to a value, but closing it has raised an error. -/
  | adrift
  /-- Something has failed. -/
  | lost

/-- The protocol that the program of a level is resumed and closed through. -/
def Level.via (l : Level V) : Protocol :=
  match l.drive with
  | .inl via => via
  | .inr _ => .sync

/-- The value a program ends with: an asynchronous one ends without a value. -/
def Protocol.value [ValueLike V] : Protocol → V → V
  | .sync, v => v
  | .async, _ => ValueLike.nothing

/-- The turn after a program was closed. -/
def Turn.closed : Turn V E → Option E → Turn V E
  | .barring _ e, none => .excluded e
  | .excluded e, none => .excluded e
  | .leaving p v, none => .leaving p v
  | .leaving .., some _ => .adrift
  | .adrift, _ => .adrift
  | _, _ => .lost

/-- The turn after a payload was looked at. -/
def Turn.inspected : Turn V E → Except E Traits → Turn V E
  | .suspended via p payload, .ok t =>
    match t.kind with
    | .ok .completion => .completing p payload
    | .ok _ => .asked via p
    | .error _ => .lost
  | _, _ => .lost

/-- The turn after a record was put into the log. -/
def Turn.reported : Turn V E → Option E → Turn V E
  | .ended p v, none => .leaving p v
  | .completing p payload, none => .valuing p payload
  | .answering via p, none => .answering via p
  | _, _ => .lost

/-- The turn after the cancellation was looked at before a start. -/
def Turn.checked : Turn V E → Option E → Turn V E
  | .accepted p, none => .admitted p
  | .accepted p, some e => .barring p e
  | _, _ => .lost

/-- The turn after the cancellation was looked at. -/
def Turn.pressed : Turn V E → Due V E → Turn V E
  | .asked via p, .goOn => .answering via p
  | .asked via p, .stop (.throw e) => .stopping via p e
  | _, _ => .lost

/-- The turn after an exchange. -/
def Turn.next [ValueLike V] (t : Turn V E) : Exchange V E → Turn V E
  | ⟨.inspect p .program, .ok _⟩ => .accepted p
  | ⟨.inspect _ .payload, a⟩ => t.inspected a
  | ⟨.barred, a⟩ => t.checked a
  | ⟨.due, a⟩ => t.pressed a
  | ⟨.resume via p _, .yields payload⟩ => .suspended via p payload
  | ⟨.resume via p _, .ends v⟩ => .ended p (via.value v)
  | ⟨.close .., a⟩ => t.closed a
  | ⟨.report _, a⟩ => t.reported a
  | ⟨.nameOf _, .ok _⟩ => t
  | ⟨.find _, .found _⟩ => t
  | ⟨.valueOf _, .ok v⟩ =>
    match t with
    | .valuing p _ => .leaving p v
    | _ => .lost
  | ⟨.handle _, _⟩ => t
  | ⟨.handled, _⟩ => t
  | _ => .lost

/-- What may be asked, given whether the flag was raised when the last answer came. -/
def Turn.allows (raised : Bool) : Turn V E → Request V E → Prop
  | .outside, .inspect _ .program => True
  | .accepted _, .barred => True
  | .accepted _, .complain _ => True
  | .admitted p, .resume _ p' (.send _) => p' = p ∧ raised = false
  | .barring p _, .close _ p' => p' = p
  | .barring .., .handle _ => True
  | .excluded _, .close .. => True
  | .excluded _, .handle _ => True
  | .excluded _, .handled => True
  | .suspended _ _ payload, .inspect payload' .payload => payload' = payload
  | .suspended .., .handled => True
  | .asked .., .due => True
  | .answering .., .nameOf _ => raised = false
  | .answering .., .find _ => raised = false
  | .answering .., .report _ => True
  | .answering .., .inspect _ .program => True
  | .answering via p, .resume via' p' (.send _) => via' = via ∧ p' = p
  | .stopping .., .handle _ => True
  | .stopping via p e, .resume via' p' (.throw e') => via' = via ∧ p' = p ∧ e' = e
  | .ended .., .handled => True
  | .ended p _, .report (.finished _ p' _) => p' = p
  | .completing p _, .report (.finished _ p' _) => p' = p
  | .valuing _ payload, .valueOf payload' => payload' = payload
  | .leaving p _, .close _ p' => p' = p
  | .leaving .., .handle _ => True
  | .leaving .., .handled => True
  | .handing v, .resume _ _ (.send v') => v' = v
  | .adrift, .resume _ _ (.send _) => True
  | .adrift, q => q.Leaves
  | .lost, q => q.Leaves
  | _, _ => False

/-- The turn in which the next level begins to speak. -/
def Turn.turned : Turn V E → Turn V E
  | .leaving _ v => .handing v
  | t => t

/-- Whoever begins to speak with a value resumes a program with it, so it does not matter any more
which program has come to the value. -/
lemma Turn.next_turned [ValueLike V] {t : Turn V E} {raised : Bool} {x : Exchange V E}
    (hx : t.turned.allows raised x.request) : t.turned.next x = t.next x := by
  cases t with
  | leaving p v =>
    obtain ⟨q, a⟩ := x
    cases q with
    | resume via p' how => cases a <;> rfl
    | _ => cases hx
  | _ => rfl

/-! ### Turns in which a program is closed -/

/-- A turn in which a program is closed: what follows if that raises nothing, and what follows if it
raises an error. -/
structure Turn.Closing (p : V) (τ good bad : Turn V E) : Prop where
  close : ∀ σ ∈ [τ, good, bad], ∀ raised via, σ.allows raised (.close via p)
  handle : ∀ σ ∈ [τ, good, bad], ∀ raised e, σ.allows raised (.handle e)
  handled : ∀ σ ∈ [good, bad], ∀ raised, σ.allows raised .handled
  first : τ.closed none = good
  again : good.closed none = good
  fails : ∀ σ ∈ [τ, good, bad], ∀ e, σ.closed (some e) = bad
  stays : bad.closed none = bad

variable {τ good bad : Turn V E} {p : V}

/-- What can be said while a program is closed can be said again after that. -/
lemma Turn.Closing.onGood (hτ : τ.Closing p good bad) : good.Closing p good bad where
  close σ hσ := hτ.close σ (by simp_all)
  handle σ hσ := hτ.handle σ (by simp_all)
  handled := hτ.handled
  first := hτ.again
  again := hτ.again
  fails σ hσ := hτ.fails σ (by simp_all)
  stays := hτ.stays

lemma Turn.Closing.onBad (hτ : τ.Closing p good bad) : bad.Closing p bad bad where
  close σ hσ := hτ.close σ (by simp_all)
  handle σ hσ := hτ.handle σ (by simp_all)
  handled σ hσ := hτ.handled σ (by simp_all)
  first := hτ.stays
  again := hτ.stays
  fails σ hσ := hτ.fails σ (by simp_all)
  stays := hτ.stays

lemma closing_barring (p : V) (e : E) : (Turn.barring p e).Closing p (.excluded e) .lost where
  close := by rintro _ (_ | ⟨_, _ | ⟨_, _ | ⟨_, ⟨⟩⟩⟩⟩) raised via <;> trivial
  handle := by rintro _ (_ | ⟨_, _ | ⟨_, _ | ⟨_, ⟨⟩⟩⟩⟩) raised e' <;> trivial
  handled := by rintro _ (_ | ⟨_, _ | ⟨_, ⟨⟩⟩⟩) raised <;> trivial
  first := rfl
  again := rfl
  fails := by rintro _ (_ | ⟨_, _ | ⟨_, _ | ⟨_, ⟨⟩⟩⟩⟩) e' <;> rfl
  stays := rfl

lemma closing_excluded (p : V) (e : E) : (Turn.excluded e).Closing p (.excluded e) .lost :=
  (closing_barring p e).onGood

lemma closing_leaving (p v : V) :
    (Turn.leaving p v : Turn V E).Closing p (.leaving p v) .adrift where
  close := by rintro _ (_ | ⟨_, _ | ⟨_, _ | ⟨_, ⟨⟩⟩⟩⟩) raised via <;> trivial
  handle := by rintro _ (_ | ⟨_, _ | ⟨_, _ | ⟨_, ⟨⟩⟩⟩⟩) raised e' <;> trivial
  handled := by rintro _ (_ | ⟨_, _ | ⟨_, ⟨⟩⟩⟩) raised <;> trivial
  first := rfl
  again := rfl
  fails := by rintro _ (_ | ⟨_, _ | ⟨_, _ | ⟨_, ⟨⟩⟩⟩⟩) e' <;> rfl
  stays := rfl

lemma closing_adrift (p : V) : (Turn.adrift : Turn V E).Closing p .adrift .adrift :=
  (closing_leaving p p).onBad

lemma closing_lost [ErrorLike E] (p : V) : (Turn.lost : Turn V E).Closing p .lost .lost :=
  (closing_barring p ErrorLike.exit).onBad

/-! ### Turns in which no program is resumed -/

/-- Turns in which the program that was looked at last was not resumed, or something has failed. -/
def Turn.Fresh : Turn V E → Prop
  | .accepted _ | .admitted _ | .barring .. | .excluded _ | .lost => True
  | _ => False

/-- Looking at a program, so that it is to be resumed for the first time next, and resuming one. -/
def Request.freshens : Request V E → Bool → Bool
  | .inspect _ .program, _ => true
  | .resume .., _ => false
  | _, fresh => fresh

/-- Whether the program that was looked at last was not resumed since then. -/
def fresh (qs : List (Request V E)) : Bool := qs.foldl (fun b q => q.freshens b) false

lemma Turn.Fresh.next [ValueLike V] {t : Turn V E} (ht : t.Fresh) {x : Exchange V E}
    (hx : ∀ via p how, x.request ≠ .resume via p how) : (t.next x).Fresh := by
  obtain ⟨q, a⟩ := x
  cases q with
  | resume via p how => exact absurd rfl (hx via p how)
  | inspect v role =>
    cases role with
    | program => cases a <;> trivial
    | payload => cases t <;> trivial
  | barred => cases t <;> cases a <;> trivial
  | due => cases t <;> trivial
  | close via p => cases t <;> cases a <;> trivial
  | report r => cases t <;> trivial
  | nameOf token => cases a <;> first | exact ht | trivial
  | find name => cases a <;> first | exact ht | trivial
  | valueOf c => cases a <;> cases t <;> trivial
  | handle e => exact ht
  | handled => exact ht
  | complain c => trivial
  | discard v => trivial
  | build => trivial

/-- A program that was looked at and not resumed keeps the turn fresh. -/
lemma fresh_turn [ValueLike V] (h : History V E) {t : Turn V E} {b : Bool}
    (hb : b = true → t.Fresh)
    (hh : (h.map (·.request)).foldl (fun b q => q.freshens b) b = true) :
    (h.foldl Turn.next t).Fresh := by
  induction h generalizing t b with
  | nil => exact hb hh
  | cons x h ih =>
    refine ih (fun hx => ?_) hh
    obtain ⟨q, a⟩ := x
    cases q with
    | resume via p how => cases hx
    | inspect v role =>
      cases role with
      | program => cases a <;> trivial
      | payload => exact (hb hx).next fun _ _ _ h => by cases h
    | _ => exact (hb hx).next fun _ _ _ h => by cases h

/-- With the flag raised no program is resumed for the first time. -/
lemma Turn.Fresh.not_resume {t : Turn V E} (ht : t.Fresh) {via : Protocol} {p : V}
    {how : Resumption V E} : ¬ t.allows true (.resume via p how) := by
  cases t <;> cases how <;> simp_all [Turn.Fresh, Turn.allows, Request.Leaves]

lemma Turn.Fresh.turned {t : Turn V E} (ht : t.Fresh) : t.turned = t := by
  cases t <;> first | rfl | cases ht

/-- With the flag raised no name is looked up. -/
lemma Turn.not_find (t : Turn V E) (name : V) : ¬ t.allows true (.find name) := by
  cases t <;> simp [Turn.allows, Request.Leaves]

/-! ### The monitor -/

/-- Where a conversation stands, and the flag when the last answer came. -/
structure Standing (V E : Type) where
  flag : Cancellation V
  turn : Turn V E

/-- The monitor of conversations. The name of a token is read in one breath with what came before. -/
def Stopper.conversation [ValueLike V] [ErrorLike E] (k : Stopper V E) : Monitor V E (Standing V E) where
  allows s q := s.turn.allows s.flag.cancelled q
  moves s x s' := ∃ flag, s.flag.Grows flag ∧ (∀ token, x.request = .nameOf token → flag = s.flag) ∧
    k.Answers flag x ∧ s' = ⟨flag, s.turn.next x⟩
  turned s := ⟨s.flag, s.turn.turned⟩
  turned_turned s := by
    obtain ⟨flag, t⟩ := s
    cases t <;> rfl
  moves_turned {s s' x} hx := by
    rintro ⟨flag, hflag, hname, ha, rfl⟩
    exact ⟨flag, hflag, hname, ha, by rw [Turn.next_turned hx]⟩

section

variable [ValueLike V] [ErrorLike E] {k : Stopper V E} {flag : Cancellation V} {m : Manner}
  {α : Type} {P : Standing V E → α → Prop}

/-- A request that may be put, with the turns that follow on its answers. -/
lemma converses_ask {q : Request V E} {next : q.Answer → Talk V E α}
    (hq : τ.allows flag.cancelled q)
    (h : ∀ a flag', k.Answers flag' ⟨q, a⟩ →
      (next a).Keeps k.conversation P ⟨flag', τ.next ⟨q, a⟩⟩) :
    (Talk.ask q next).Keeps k.conversation P ⟨flag, τ⟩ := by
  refine ⟨hq, ?_⟩
  rintro a _ ⟨flag', -, -, ha, rfl⟩
  exact h a flag' ha

/-- While the name of a token is read, the flag stays as it is. -/
lemma converses_nameOf {token : V} {next : Except E V → Talk V E α}
    (hq : τ.allows flag.cancelled (.nameOf token))
    (h : ∀ a, (next a).Keeps k.conversation P ⟨flag, τ.next ⟨.nameOf token, a⟩⟩) :
    (Talk.ask (.nameOf token) next).Keeps k.conversation P ⟨flag, τ⟩ := by
  refine ⟨hq, ?_⟩
  rintro a _ ⟨flag', -, hsame, -, rfl⟩
  obtain rfl := hsame token rfl
  exact h a

/-- The turn is told from the exchanges alone. -/
lemma Monitor.Watches.turn_eq {s s' : Standing V E} {h : History V E}
    (hs : k.conversation.Watches s h s') : s'.turn = h.foldl Turn.next s.turn := by
  induction h generalizing s with
  | nil => rw [show s' = s from hs]; rfl
  | cons x h ih =>
    obtain ⟨s₁, ⟨flag', -, -, -, rfl⟩, hs⟩ := hs
    exact ih hs

/-- A history that is right about a raised flag, from any turn. -/
lemma watches_raised {F : Cancellation V} {s : Standing V E}
    (hs : s.flag.Grows F) {x : Exchange V E} (hx : ∀ token, x.request = .nameOf token → F = s.flag)
    {h : History V E} (hh : ∀ y ∈ x :: h, k.Answers F y) :
    k.conversation.Watches s (x :: h) ⟨F, (x :: h).foldl Turn.next s.turn⟩ := by
  induction h generalizing s x with
  | nil => exact ⟨_, ⟨F, hs, hx, hh x (by simp), rfl⟩, rfl⟩
  | cons y h ih =>
    refine ⟨_, ⟨F, hs, hx, hh x (by simp), rfl⟩, ?_⟩
    exact ih (.inl rfl) (fun _ _ => rfl) fun z hz => hh z (List.mem_cons_of_mem _ hz)

/-! ### Closing a program -/

/-- How a conversation stands once a program was closed. -/
def Turn.Ends (good bad : Turn V E) (s : Standing V E) (a : Option E) : Prop :=
  s.turn = good ∧ a = none ∨ s.turn = bad

/-- One closing through a protocol. -/
lemma close_once_converses (hτ : τ.Closing p good bad) (via : Protocol) :
    (Talk.ask (.close via p) .done).Keeps k.conversation (Turn.Ends good bad) ⟨flag, τ⟩ := by
  refine converses_ask (hτ.close τ (by simp) _ _) fun a flag' _ => ?_
  cases a with
  | none => exact .inl ⟨hτ.first, rfl⟩
  | some e => exact .inr (hτ.fails τ (by simp) e)

/-- Handling an error while a program is closed. -/
lemma handling_converses (hτ : τ.Closing p good bad) (e : E) {t : Talk V E (Option E)}
    (ht : ∀ flag', t.Keeps k.conversation (Turn.Ends good bad) ⟨flag', τ⟩) :
    (Talk.handling e t).Keeps k.conversation (Turn.Ends good bad) ⟨flag, τ⟩ := by
  refine converses_ask (hτ.handle τ (by simp) _ _) fun _ flag' _ => ?_
  refine (Talk.keeps_bind t).2 ((ht flag').mono ?_)
  rintro ⟨flag'', σ⟩ a ha
  refine converses_ask (hτ.handled σ ?_ _) fun _ _ _ => ha
  obtain ⟨rfl, -⟩ | rfl := ha <;> simp

/-- Closing a level. -/
lemma Level.close_converses (l : Level V) (hτ : τ.Closing l.program good bad) :
    l.close.Keeps k.conversation (Turn.Ends good bad) ⟨flag, τ⟩ := by
  obtain ⟨program, via | stage⟩ := l
  · exact close_once_converses hτ via
  · cases stage with
    | waiting =>
      unfold Level.close Lifting.close
      refine (Talk.keeps_bind _).2 ((handling_converses hτ ErrorLike.exit fun flag' => ?_).mono ?_)
      · refine converses_ask (hτ.close τ (by simp) _ _) fun a flag' _ => ?_
        cases a with
        | none => exact .inl ⟨hτ.first, rfl⟩
        | some e => exact .inr (hτ.fails τ (by simp) e)
      · rintro ⟨flag', σ⟩ a ha
        cases a with
        | some e => exact ha
        | none =>
          obtain ⟨rfl, -⟩ | rfl := ha
          · exact close_once_converses hτ.onGood .sync
          · exact (close_once_converses hτ.onBad .sync).mono fun s a h => h.elim (fun h => .inr h.1) .inr
    | _ => exact close_once_converses hτ .sync

/-- Leaving a level with an error. -/
lemma finish_error_converses (l : Level V) (hτ : τ.Closing l.program good bad) (e : E) :
    (finish m l (.error e)).Keeps k.conversation (fun s v =>
      s.turn = good ∧ v = .leave (.error (m.cross e)) ∨ s.turn = bad ∧ ∃ e', v = .leave (.error e'))
      ⟨flag, τ⟩ := by
  unfold finish
  refine (Talk.keeps_bind _).2 ((handling_converses hτ e fun _ => l.close_converses hτ).mono ?_)
  intro s a ha
  cases a with
  | none =>
    rw [Talk.keeps_done, Manner.out_error]
    exact ha.imp (fun h => ⟨h.1, rfl⟩) fun h => ⟨h, _, rfl⟩
  | some e' =>
    rw [Talk.keeps_done, Manner.out_error]
    exact .inr ⟨ha.resolve_left fun h => Option.some_ne_none _ h.2, _, rfl⟩

/-- Leaving a level with a value. -/
lemma finish_ok_converses (l : Level V) (hτ : τ.Closing l.program good bad) (v : V) :
    (finish m l (.ok v)).Keeps k.conversation (fun s w =>
      s.turn = good ∧ w = .leave (.ok v) ∨ s.turn = bad ∧ ∃ result, w = .leave result)
      ⟨flag, τ⟩ := by
  unfold finish
  refine (Talk.keeps_bind _).2 ((l.close_converses hτ).mono ?_)
  intro s a ha
  cases a with
  | none => exact ha.imp (fun h => ⟨h.1, by cases m <;> rfl⟩) fun h => ⟨h, _, rfl⟩
  | some e => exact .inr ⟨ha.resolve_left fun h => Option.some_ne_none _ h.2, _, rfl⟩

/-! ### Resuming a program -/

/-- How a conversation stands once the program of a level has responded. -/
def Level.Responded (m : Manner) (l : Level V) (s : Standing V E) (o : Level V × Response V E) :
    Prop :=
  o.1.program = l.program ∧ o.1.via = l.via ∧
    match o.2 with
    | .yields payload => s.turn = .suspended l.via l.program payload ∧ o.1.Suspended m
    | .ends v => s.turn = .ended l.program v
    | .raises _ => s.turn = .lost

/-- Resuming a lifted program. -/
lemma lifted_resume_converses (stage : Lifting.Stage) {how : Resumption V E}
    (hτ : τ.allows flag.cancelled (.resume .sync p how)) :
    (Talk.ask (.resume .sync p how) fun a => Talk.done (Lifting.follow a)).Keeps k.conversation
      (fun s o => Level.Responded .cooperative ⟨p, .inr stage⟩ s (⟨p, .inr o.1⟩, o.2.response))
      ⟨flag, τ⟩ := by
  refine converses_ask hτ fun a flag' _ => ?_
  cases a with
  | yields payload => exact ⟨rfl, rfl, rfl, rfl⟩
  | ends v => exact ⟨rfl, rfl, rfl⟩
  | raises e => exact ⟨rfl, rfl, rfl⟩

/-- Once a program has responded, the error that was thrown into it is handled no longer. -/
lemma handled_converses {l : Level V} {s : Standing V E} {o : Level V × Response V E}
    (hs : l.Responded m s o) {next : Unit → Talk V E α}
    (h : ∀ flag', (next ()).Keeps k.conversation P ⟨flag', s.turn⟩) :
    (Talk.ask .handled next).Keeps k.conversation P s := by
  refine converses_ask ?_ fun _ flag' _ => h flag'
  obtain ⟨-, -, hs⟩ := hs
  obtain ⟨l', payload | v | e⟩ := o
  · rw [hs.1]; trivial
  · rw [show s.turn = _ from hs]; trivial
  · rw [show s.turn = _ from hs]; trivial

/-- Throwing the error of a stop into a lifted program. -/
lemma throwOn_converses {stage : Lifting.Stage} {e : E} (he : ErrorLike.nature e = .ordinary) :
    (Lifting.throwOn p e).Keeps k.conversation
      (fun s o => Level.Responded .cooperative ⟨p, .inr stage⟩ s (⟨p, .inr o.1⟩, o.2.response))
      ⟨flag, .stopping .sync p e⟩ := by
  unfold Lifting.throwOn
  rw [he]
  refine converses_ask trivial fun _ flag' _ => (Talk.keeps_bind _).2 ?_
  have hτ : (Turn.stopping .sync p e).allows flag'.cancelled (.resume .sync p (.throw e)) :=
    ⟨rfl, rfl, rfl⟩
  refine (lifted_resume_converses stage hτ).mono fun s o ho => ?_
  exact handled_converses ho fun _ => ho

/-- Resuming the program of a level. -/
lemma Level.resume_converses (l : Level V) {how : Resumption V E}
    (hl : l.Suspended m ∨ m = .cooperative ∧ l.drive = .inr .unstarted ∧
      how = .send ValueLike.nothing)
    (hτ : τ.allows flag.cancelled (.resume l.via l.program how))
    (he : ∀ e, how = .throw e → ErrorLike.nature e = .ordinary ∧ τ = .stopping l.via l.program e) :
    (l.resume how).Keeps k.conversation (l.Responded m) ⟨flag, τ⟩ := by
  obtain ⟨program, via | stage⟩ := l
  · have hl' : Level.Suspended m ⟨program, .inl via⟩ := hl.resolve_right fun h => by cases h.2.1
    refine converses_ask hτ fun a flag' _ => ?_
    cases a with
    | yields payload => cases via <;> exact ⟨rfl, rfl, rfl, hl'⟩
    | ends v => cases via <;> exact ⟨rfl, rfl, rfl⟩
    | raises e => cases via <;> exact ⟨rfl, rfl, rfl⟩
  · unfold Level.resume
    rw [Talk.keeps_bind]
    obtain hl | ⟨rfl, hl, rfl⟩ := hl
    · cases m with
      | blocking => cases hl
      | cooperative =>
        obtain rfl : stage = .waiting := hl
        cases how with
        | send v => exact lifted_resume_converses .waiting hτ
        | throw e =>
          obtain ⟨hn, rfl⟩ := he e rfl
          exact throwOn_converses hn
    · obtain rfl := Sum.inr.inj hl
      exact lifted_resume_converses .unstarted hτ

/-! ### Answering a payload -/

/-- How a conversation stands once a payload was read. -/
def Turn.Classified (via : Protocol) (p payload : V) (s : Standing V E) : Except E Kind → Prop
  | .ok .completion => s.turn = .completing p payload
  | .ok _ => s.turn = .asked via p
  | .error _ => s.turn = .lost

/-- Reading a payload. -/
lemma classify_converses (via : Protocol) (p payload : V) :
    (classify payload).Keeps k.conversation (Turn.Classified via p payload)
      ⟨flag, .suspended via p payload⟩ := by
  refine converses_ask rfl fun a flag' _ => ?_
  cases a with
  | error e => exact rfl
  | ok traits =>
    simp only [Turn.next, Turn.inspected]
    cases traits.kind with
    | ok kind => cases kind <;> rfl
    | error why =>
      cases why with
      | uncalled => exact converses_ask trivial fun e _ _ => rfl
      | coroutine =>
        refine converses_ask trivial fun a _ _ => ?_
        cases a with
        | some e => rfl
        | none => exact converses_ask trivial fun e _ _ => rfl

/-- Looking a name up, while the flag is not raised. -/
lemma lookup_converses {via : Protocol} {name : V} (hflag : flag.cancelled = false) :
    (lookup name).Keeps k.conversation (fun s a => match a with
      | .ok _ => s.turn = .answering via p
      | .error _ => s.turn = .lost) ⟨flag, .answering via p⟩ := by
  refine converses_ask hflag fun a flag' _ => ?_
  cases a with
  | found v => rfl
  | failed e => rfl
  | absent said =>
    refine converses_ask trivial fun _ _ _ => converses_ask trivial fun a _ _ => ?_
    cases a with
    | some e => exact converses_ask trivial fun _ _ _ => rfl
    | none => exact converses_ask trivial fun e _ _ => converses_ask trivial fun _ _ _ => rfl

/-! ### Verdicts -/

/-- Which verdicts a level may come to in a conversation. -/
def Turn.approves (m : Manner) (raised : Bool) : Turn V E → Verdict V E → Prop
  | .admitted p, .again l how => l.program = p ∧ l.Takes m how ∧
      how = .send ValueLike.nothing ∧ raised = false
  | .answering via p, .again l how => l.program = p ∧ l.via = via ∧ l.Suspended m ∧
      ∃ v, how = .send v
  | .answering .., .enter l _ => l.Suspended m
  | .stopping via p e, .again l how => l.program = p ∧ l.via = via ∧ l.Suspended m ∧
      how = .throw e ∧ ErrorLike.nature e = .ordinary
  | .excluded e, .leave result => result = .error e ∧ ErrorLike.nature e = .ordinary
  | .leaving _ v, .leave result => result = .ok v
  | .adrift, .leave _ => True
  | .lost, .leave (.error _) => True
  | _, _ => False

/-- Which verdicts a level may come to, given where the conversation stands. -/
def Standing.Approves (m : Manner) (s : Standing V E) (v : Verdict V E) : Prop :=
  s.turn.approves m s.flag.cancelled v

/-- Leaving a level after a failure. -/
lemma finish_lost_converses (l : Level V) (e : E) :
    (finish m l (.error e)).Keeps k.conversation (Standing.Approves m) ⟨flag, .lost⟩ := by
  refine (finish_error_converses l (closing_lost l.program) e).mono ?_
  rintro ⟨flag', σ⟩ v (⟨rfl, rfl⟩ | ⟨rfl, e', rfl⟩) <;> trivial

/-- Leaving a level with a value that its program has come to. -/
lemma finish_leaving_converses (l : Level V) (v : V) :
    (finish m l (.ok v)).Keeps k.conversation (Standing.Approves m)
      ⟨flag, .leaving l.program v⟩ := by
  refine (finish_ok_converses l (closing_leaving l.program v) v).mono ?_
  rintro ⟨flag', σ⟩ w (⟨rfl, rfl⟩ | ⟨rfl, result, rfl⟩)
  · rfl
  · trivial

/-- A record in the course of answering. -/
lemma reporting_converses (l : Level V) {r : Report V} {via : Protocol}
    {next : Talk V E (Verdict V E)}
    (h : ∀ flag', next.Keeps k.conversation (Standing.Approves m)
      ⟨flag', .answering via l.program⟩) :
    (reporting m l r next).Keeps k.conversation (Standing.Approves m)
      ⟨flag, .answering via l.program⟩ := by
  refine converses_ask trivial fun a flag' _ => ?_
  cases a with
  | some e => exact finish_lost_converses l e
  | none => exact h flag'

/-- A program that has ended hands its value on. -/
lemma deliver_ended_converses (l : Level V) (v : V) :
    (deliver m l (.done (.ok v))).Keeps k.conversation (Standing.Approves m)
      ⟨flag, .ended l.program v⟩ := by
  refine converses_ask rfl fun a flag' _ => ?_
  cases a with
  | some e => exact finish_lost_converses l e
  | none => exact finish_leaving_converses l v

/-- A program that has yielded a completion hands the value in it on. -/
lemma deliver_completing_converses (l : Level V) (payload : V) :
    (deliver m l (.request (.valueOf payload))).Keeps k.conversation (Standing.Approves m)
      ⟨flag, .completing l.program payload⟩ := by
  refine converses_ask rfl fun a flag' _ => ?_
  cases a with
  | some e => exact finish_lost_converses l e
  | none =>
    refine converses_ask rfl fun a flag'' _ => ?_
    cases a with
    | error e => exact finish_lost_converses l e
    | ok v => exact finish_leaving_converses l v

/-- Looking at the cancellation before an answer: if a stop is due, its error is to be thrown. -/
lemma unlessDue_converses (l : Level V) (hl : l.Suspended m) {answer : Talk V E (Verdict V E)}
    (h : ∀ flag', flag'.cancelled = false → answer.Keeps k.conversation (Standing.Approves m)
      ⟨flag', .answering l.via l.program⟩) :
    (unlessDue m l answer).Keeps k.conversation (Standing.Approves m)
      ⟨flag, .asked l.via l.program⟩ := by
  refine converses_ask trivial fun a flag' ha => ?_
  cases hf : flag'.cancelled with
  | false =>
    obtain rfl := (answers_due_of_lowered hf).1 ha
    exact h flag' hf
  | true =>
    obtain ⟨e, he, rfl⟩ := (answers_due_of_raised hf).1 ha
    exact ⟨rfl, rfl, hl, rfl, k.ordinary he⟩

/-- Answering a payload that is not a completion. -/
lemma settle_converses (l : Level V) (hl : l.Suspended m) (payload : V) {kind : Kind}
    (hk : kind ≠ .completion) :
    (settle m l payload kind).Keeps k.conversation (Standing.Approves m)
      ⟨flag, .asked l.via l.program⟩ := by
  cases kind with
  | completion => exact absurd rfl hk
  | nested => exact unlessDue_converses l hl fun _ _ => reporting_converses l fun _ => hl
  | passthrough =>
    exact unlessDue_converses l hl fun _ _ => reporting_converses l fun _ => ⟨rfl, rfl, hl, _, rfl⟩
  | service =>
    refine unlessDue_converses l hl fun flag' hflag => converses_nameOf hflag fun a => ?_
    cases a with
    | error e => exact finish_lost_converses l e
    | ok name =>
      refine (Talk.keeps_bind _).2 ((lookup_converses hflag).mono ?_)
      rintro ⟨flag'', σ⟩ a ha
      cases a with
      | error e =>
        obtain rfl : σ = .lost := ha
        exact finish_lost_converses l e
      | ok v =>
        obtain rfl : σ = .answering l.via l.program := ha
        exact reporting_converses l fun _ => ⟨rfl, rfl, hl, _, rfl⟩

/-! ### The parts of a level -/

/-- A cycle of a level. -/
lemma cycle_converses (l : Level V) {how : Resumption V E}
    (hl : l.Suspended m ∨ m = .cooperative ∧ l.drive = .inr .unstarted ∧
      how = .send ValueLike.nothing)
    (hτ : τ.allows flag.cancelled (.resume l.via l.program how))
    (he : ∀ e, how = .throw e → ErrorLike.nature e = .ordinary ∧ τ = .stopping l.via l.program e) :
    (cycle m l how).Keeps k.conversation (Standing.Approves m) ⟨flag, τ⟩ := by
  refine (Talk.keeps_bind _).2 ((l.resume_converses hl hτ he).mono ?_)
  rintro ⟨flag', σ⟩ ⟨l', a⟩ ⟨hp, hvia, ha⟩
  have hp : l'.program = l.program := hp
  have hvia : l'.via = l.via := hvia
  rw [← hp, ← hvia] at ha
  cases a with
  | raises e =>
    obtain rfl : σ = .lost := ha
    exact finish_lost_converses l' e
  | ends v =>
    obtain rfl : σ = .ended l'.program v := ha
    exact deliver_ended_converses l' v
  | yields payload =>
    obtain ⟨hσ, hl'⟩ := ha
    obtain rfl : σ = .suspended l'.via l'.program payload := hσ
    refine (Talk.keeps_bind _).2 ((classify_converses l'.via l'.program payload).mono ?_)
    rintro ⟨flag'', σ⟩ a ha
    cases a with
    | error e =>
      obtain rfl : σ = .lost := ha
      exact finish_lost_converses l' e
    | ok kind =>
      cases kind with
      | completion =>
        obtain rfl : σ = .completing l'.program payload := ha
        exact deliver_completing_converses l' payload
      | service | nested | passthrough =>
        obtain rfl : σ = .asked l'.via l'.program := ha
        exact settle_converses l' hl' payload (by simp)

/-- Leaving a level with the error of a stop before the start. -/
lemma finish_barred_converses (l : Level V) {e : E} (he : ErrorLike.nature e = .ordinary)
    (hτ : τ.Closing l.program (.excluded e) .lost) :
    (finish m l (.error e)).Keeps k.conversation (Standing.Approves m) ⟨flag, τ⟩ := by
  refine (finish_error_converses l hτ e).mono ?_
  rintro ⟨flag', σ⟩ v (⟨rfl, rfl⟩ | ⟨rfl, e', rfl⟩)
  · exact ⟨by rw [m.cross_of_not_ended (by simp [he])], he⟩
  · trivial

/-- Taking up a program. -/
lemma takeUp_converses (q : V) (hτ : τ.allows flag.cancelled (.inspect q .program)) :
    (takeUp m q).Keeps k.conversation (Standing.Approves m) ⟨flag, τ⟩ := by
  refine converses_ask hτ fun a flag' _ => ?_
  cases a with
  | error e =>
    simp only [Manner.out_error]
    trivial
  | ok traits =>
    cases ha : m.accept traits with
    | error why =>
      simp only [ha, Manner.out_error]
      exact converses_ask trivial fun _ _ _ => trivial
    | ok form =>
      simp only [ha]
      refine converses_ask trivial fun a flag'' hbarred => ?_
      have hp : (Level.opened q form).program = q := by cases form <;> rfl
      cases hf : flag''.cancelled with
      | false =>
        obtain rfl := (answers_barred_of_lowered hf).1 hbarred
        exact ⟨hp, opened_takes ha q, rfl, hf⟩
      | true =>
        obtain ⟨e, he, rfl⟩ := (answers_barred_of_raised hf).1 hbarred
        refine finish_barred_converses (Level.opened q form) (k.ordinary he) ?_
        rw [hp]
        exact closing_barring q e

/-- Going on with a level whose nested program has come to a result. -/
lemma proceed_converses (l : Level V) (hl : l.Suspended m) {result : Except E V}
    (hτ : τ.approves m flag.cancelled (.leave result)) :
    (proceed m l result).Keeps k.conversation (Standing.Approves m) ⟨flag, τ.turned⟩ := by
  cases τ with
  | excluded e =>
    obtain ⟨rfl, he⟩ := hτ
    exact finish_barred_converses l he (closing_excluded l.program e)
  | leaving p v =>
    obtain rfl : result = .ok v := hτ
    exact cycle_converses l (.inl hl) rfl fun e h => by cases h
  | adrift =>
    cases result with
    | ok v => exact cycle_converses l (.inl hl) trivial fun e h => by cases h
    | error e =>
      refine (finish_error_converses l (closing_adrift l.program) e).mono ?_
      rintro ⟨flag', σ⟩ v (⟨rfl, rfl⟩ | ⟨rfl, e', rfl⟩) <;> trivial
  | lost =>
    cases result with
    | ok v => cases hτ
    | error e => exact finish_lost_converses l e
  | _ => cases hτ

/-! ### Runs -/

/-- Which verdicts are approved among the levels that wait. -/
def Standing.Settles (m : Manner) (s : Standing V E) (waiting : List (Level V)) (v : Verdict V E) :
    Prop :=
  s.Approves m v ∧ ∀ l ∈ waiting, l.Suspended m

/-- Which result a run may have, given where the conversation stands. -/
def Standing.Concludes (s : Standing V E) (result : Except E V) : Prop :=
  match s.turn with
  | .excluded e => result = .error e
  | .handing v => result = .ok v
  | .adrift => True
  | .lost => ∃ e, result = .error e
  | _ => False

/-- Resuming a program as an approved verdict says. -/
lemma again_converses (l : Level V) {how : Resumption V E}
    (hτ : τ.approves m flag.cancelled (.again l how)) :
    (cycle m l how).Keeps k.conversation (Standing.Approves m) ⟨flag, τ.turned⟩ := by
  cases τ with
  | admitted p =>
    obtain ⟨rfl, hl, rfl, hflag⟩ := hτ
    refine cycle_converses l ?_ ⟨rfl, hflag⟩ fun e h => by cases h
    exact hl.imp_right fun h => ⟨h.1, h.2.1, rfl⟩
  | answering via p =>
    obtain ⟨rfl, rfl, hl, v, rfl⟩ := hτ
    exact cycle_converses l (.inl hl) ⟨rfl, rfl⟩ fun e h => by cases h
  | stopping via p e =>
    obtain ⟨rfl, rfl, hl, rfl, he⟩ := hτ
    refine cycle_converses l (.inl hl) ⟨rfl, rfl, rfl⟩ fun e' h => ?_
    cases h
    exact ⟨he, rfl⟩
  | _ => cases hτ

/-- The result that the outermost level leaves with is one that the run may have. -/
lemma concludes_of_leave {result : Except E V}
    (hτ : τ.approves m flag.cancelled (.leave result)) :
    Standing.Concludes ⟨flag, τ.turned⟩ result := by
  cases τ with
  | excluded e => exact hτ.1
  | leaving p v => exact hτ
  | adrift => trivial
  | lost =>
    cases result with
    | ok v => cases hτ
    | error e => exact ⟨e, rfl⟩
  | _ => cases hτ

/-- Approved verdicts lead to runs that keep to the conversation. -/
lemma next_converses (s : Standing V E) (waiting : List (Level V)) (v : Verdict V E)
    (hv : s.Settles m waiting v) :
    (v.next m waiting).Keeps k.conversation (Standing.Settles m) Standing.Concludes
      (k.conversation.turned s) := by
  obtain ⟨hv, hw⟩ := hv
  obtain ⟨flag, τ⟩ := s
  cases v with
  | again l how => exact (again_converses l hv).mono fun s v hs => ⟨hs, hw⟩
  | enter l nested =>
    cases τ with
    | answering via p =>
      have htake : (takeUp m nested).Keeps k.conversation (Standing.Approves m)
          ⟨flag, .answering via p⟩ := takeUp_converses nested trivial
      refine htake.mono fun s v hs => ⟨hs, ?_⟩
      rintro l' (_ | ⟨_, hl'⟩)
      · exact hv
      · exact hw l' hl'
    | _ => cases hv
  | leave result =>
    cases waiting with
    | nil => exact concludes_of_leave hv
    | cons l rest =>
      exact (proceed_converses l (hw l List.mem_cons_self) hv).mono fun s v hs =>
        ⟨hs, fun l' hl' => hw l' (List.mem_cons_of_mem _ hl')⟩

/-- A run keeps to the conversation from its start. -/
lemma start_converses (q : V) (flag : Cancellation V) :
    (Run.start m q).Keeps k.conversation (Standing.Settles m) Standing.Concludes
      ⟨flag, .outside⟩ := by
  have htake : (takeUp m q).Keeps k.conversation (Standing.Approves m) ⟨flag, .outside⟩ :=
    takeUp_converses q trivial
  exact htake.mono fun _ _ hs => ⟨hs, fun _ hl => by cases hl⟩

/-- Where a run has come to, it keeps to the conversation. -/
lemma Run.Goes.converses {q : V} {r : Run V E} {h : History V E} {s : Standing V E}
    (hr : (Run.start m q).Goes m h r) (hs : k.conversation.Watches ⟨flag, .outside⟩ h s) :
    r.Keeps k.conversation (Standing.Settles m) Standing.Concludes s ∨
      r.Keeps k.conversation (Standing.Settles m) Standing.Concludes (k.conversation.turned s) :=
  hr.keeps next_converses hs (.inl (start_converses q flag))

end

end Provision
