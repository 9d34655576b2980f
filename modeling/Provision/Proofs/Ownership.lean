import Provision.Proofs.Monitor

/-!
Ownership: a driver deals in nothing but what it was given.

A `Holding` is a stock of values and errors that contains what a driver makes itself: the absence of
a value, the signal to close, and the errors that boundaries put in the place of others. A talk is
within a holding if it asks for nothing outside of it, as long as the answers bring nothing from
outside (`Talk.Within`). Every part of a level is within any holding of its program
(`takeUp_within`, `cycle_within`, `proceed_within`), and so is every run (`Run.Within`,
`Verdict.next_within`): nothing leads from one run to what belongs to another. -/

namespace Provision

variable {V E α β : Type} [ValueLike V] [ErrorLike E]

/-! ### Holdings -/

/-- Values and errors that a run may deal in. -/
structure Holding (V E : Type) [ValueLike V] [ErrorLike E] where
  value : V → Prop
  error : E → Prop
  nothing : value ValueLike.nothing
  exit : error ErrorLike.exit
  stopped (b : Boundary) {e : E} : error e → error (ErrorLike.stopped b e)

namespace Holding

variable (H : Holding V E)

def resumption : Resumption V E → Prop
  | .send v => H.value v
  | .throw e => H.error e

def report : Report V → Prop
  | .finished _ p _ => H.value p
  | .nested _ p => H.value p
  | .resolved name => H.value name
  | .passing payload => H.value payload
  | .notProvided name => H.value name
  | .stopRequested reason => H.value reason

def complaint : Complaint V → Prop
  | .refused p _ => H.value p
  | .unresolvable payload _ => H.value payload
  | .notProvided name => H.value name

/-- A request is about nothing else. -/
def request : Request V E → Prop
  | .inspect v _ => H.value v
  | .barred => True
  | .due => True
  | .resume _ p how => H.value p ∧ H.resumption how
  | .close _ p => H.value p
  | .find name => H.value name
  | .nameOf token => H.value token
  | .valueOf completion => H.value completion
  | .report r => H.report r
  | .complain c => H.complaint c
  | .discard v => H.value v
  | .build factory services arguments keywords =>
    H.value factory ∧ H.value services ∧ H.value arguments ∧ H.value keywords
  | .handle e => H.error e
  | .handled => True

def outcome : Except E V → Prop
  | .ok v => H.value v
  | .error e => H.error e

def problem (a : Option E) : Prop := ∀ e ∈ a, H.error e

/-- An answer brings nothing else. -/
def answer : (q : Request V E) → q.Answer → Prop
  | .inspect .., .ok _ => True
  | .inspect .., .error e => H.error e
  | .barred, a => H.problem a
  | .due, .goOn => True
  | .due, .stop how => H.resumption how
  | .due, .failed e => H.error e
  | .resume .., .yields payload => H.value payload
  | .resume .., .ends v => H.value v
  | .resume .., .raises e => H.error e
  | .close .., a => H.problem a
  | .find _, .found v => H.value v
  | .find _, .absent e => H.error e
  | .find _, .failed e => H.error e
  | .nameOf _, a => H.outcome a
  | .valueOf _, a => H.outcome a
  | .report _, a => H.problem a
  | .complain _, e => H.error e
  | .discard _, a => H.problem a
  | .build .., a => H.outcome a
  | .handle _, _ => True
  | .handled, _ => True

def response : Response V E → Prop
  | .yields payload => H.value payload
  | .ends v => H.value v
  | .raises e => H.error e

def verdict : Verdict V E → Prop
  | .again l how => H.value l.program ∧ H.resumption how
  | .enter l q => H.value l.program ∧ H.value q
  | .leave r => H.outcome r

variable {H}

lemma cross (b : Boundary) {e : E} (he : H.error e) : H.error (b.cross e) := by
  unfold Boundary.cross
  split
  · exact H.stopped b he
  · exact he

lemma out (m : Manner) {r : Except E V} (hr : H.outcome r) : H.outcome (m.out r) := by
  cases r with
  | ok v => cases m <;> exact hr
  | error e =>
    cases m with
    | blocking => exact hr
    | cooperative => exact H.cross .coroutine hr

variable (H)

/-- The monitor that allows nothing outside a holding. -/
def monitor : Monitor V E Unit where
  allows _ q := H.request q
  moves _ x _ := H.answer x.request x.answer
  turned := id
  turned_turned _ := rfl
  moves_turned _ h := h

end Holding

/-! ### Talks -/

/-- A talk asks for nothing outside a holding, as long as the answers bring nothing from outside. -/
def Talk.Within (H : Holding V E) (P : α → Prop) (t : Talk V E α) : Prop :=
  t.Keeps H.monitor (fun _ a => P a) ()

section

variable {H : Holding V E} {P : α → Prop}

@[simp]
lemma within_done {a : α} : (Talk.done a : Talk V E α).Within H P ↔ P a := Iff.rfl

@[simp]
lemma within_ask {q : Request V E} {next : q.Answer → Talk V E α} :
    (Talk.ask q next).Within H P ↔ H.request q ∧ ∀ a, H.answer q a → (next a).Within H P :=
  and_congr_right fun _ => ⟨fun h a ha => h a () ha, fun h a _ ha => h a ha⟩

lemma within_bind {f : β → Talk V E α} {t : Talk V E β} {Q : β → Prop} (ht : t.Within H Q)
    (hf : ∀ b, Q b → (f b).Within H P) : (t.bind f).Within H P :=
  (Talk.keeps_bind t).2 (ht.mono fun _ => hf)

lemma within_handling {e : E} {t : Talk V E α} (he : H.error e) (ht : t.Within H P) :
    (Talk.handling e t).Within H P :=
  within_ask.2 ⟨he, fun _ _ => within_bind ht fun _ ha => within_ask.2 ⟨trivial, fun _ _ => ha⟩⟩

end

/-! ### The parts of a level -/

section

variable {H : Holding V E} {m : Manner}

lemma lookup_within {name : V} (hn : H.value name) : (lookup name).Within H H.outcome := by
  refine within_ask.2 ⟨hn, fun a ha => ?_⟩
  cases a with
  | found v => exact ha
  | failed e => exact ha
  | absent said =>
    refine within_handling ha (within_ask.2 ⟨hn, fun a ha => ?_⟩)
    cases a with
    | some e => exact ha e rfl
    | none => exact within_ask.2 ⟨hn, fun e he => he⟩

lemma classify_within {payload : V} (hp : H.value payload) :
    (classify payload).Within H (fun a => ∀ e, a = .error e → H.error e) := by
  refine within_ask.2 ⟨hp, fun a ha => ?_⟩
  cases a with
  | error e =>
    rintro _ ⟨⟩
    exact ha
  | ok traits =>
    cases hkind : traits.kind with
    | ok kind => simp [hkind]
    | error why =>
      cases why with
      | uncalled =>
        simp only [hkind]
        refine within_ask.2 ⟨hp, ?_⟩
        rintro e he _ ⟨⟩
        exact he
      | coroutine =>
        simp only [hkind]
        refine within_ask.2 ⟨hp, fun a ha => ?_⟩
        cases a with
        | some e =>
          rintro _ ⟨⟩
          exact ha e rfl
        | none =>
          refine within_ask.2 ⟨hp, ?_⟩
          rintro e he _ ⟨⟩
          exact he

lemma follow_within {s : Signal V E} {q : V} {how : Resumption V E}
    (hs : H.answer (.resume .sync q how) s) : H.response (Lifting.follow s).2.response := by
  cases s with
  | yields payload => exact hs
  | ends v => exact hs
  | raises e => exact H.cross .lifting hs

lemma throwOn_within {q : V} {e : E} (hq : H.value q) (he : H.error e) :
    (Lifting.throwOn q e).Within H (fun o => H.response o.2.response) := by
  unfold Lifting.throwOn
  split
  · exact he
  · refine within_handling he (within_ask.2 ⟨hq, fun a ha => H.cross .lifting ?_⟩)
    cases a with
    | none => exact he
    | some e' => exact ha e' rfl
  · exact within_handling he (within_ask.2 ⟨⟨hq, he⟩, fun s hs => follow_within hs⟩)

lemma Lifting.resume_within {q : V} {stage : Lifting.Stage} {how : Resumption V E}
    (hq : H.value q) (hh : H.resumption how) :
    (Lifting.resume q stage how).Within H (fun o => H.response o.2.response) := by
  have hrefuse : ∀ (stage : Lifting.Stage) (e : E), H.error e →
      (if ErrorLike.nature e = .improper then .done (stage, .raises e)
        else .done (Lifting.fail e) : Talk V E _).Within H (fun o => H.response o.2.response) := by
    intro stage e he
    split
    · exact he
    · exact H.cross .lifting he
  cases stage with
  | unstarted =>
    cases how with
    | send v => exact within_ask.2 ⟨⟨hq, H.nothing⟩, fun s hs => follow_within hs⟩
    | throw e => exact hrefuse .unstarted e hh
  | waiting =>
    cases how with
    | send v => exact within_ask.2 ⟨⟨hq, hh⟩, fun s hs => follow_within hs⟩
    | throw e => exact throwOn_within hq hh
  | delivering =>
    cases how with
    | send v => exact H.nothing
    | throw e => exact hrefuse .delivering e hh
  | finished => cases how <;> exact H.nothing

/-- Resuming the program of a level. -/
lemma Level.resume_within {l : Level V} {how : Resumption V E} (hl : H.value l.program)
    (hh : H.resumption how) :
    (l.resume how).Within H (fun o => H.value o.1.program ∧ H.response o.2) := by
  obtain ⟨program, via | stage⟩ := l
  · refine within_ask.2 ⟨⟨hl, hh⟩, fun s hs => ⟨hl, ?_⟩⟩
    cases s with
    | yields payload => cases via <;> exact hs
    | raises e => cases via <;> exact hs
    | ends v =>
      cases via with
      | sync => exact hs
      | async => exact H.nothing
  · exact within_bind (Lifting.resume_within hl hh) fun o ho => ⟨hl, ho⟩

/-- Closing the program of a level. -/
lemma Level.close_within {l : Level V} (hl : H.value l.program) :
    (l.close (E := E)).Within H H.problem := by
  obtain ⟨program, via | stage⟩ := l
  · exact within_ask.2 ⟨hl, fun a ha => ha⟩
  · have hlast : (Talk.ask (.close .sync program) .done).Within H H.problem :=
      within_ask.2 ⟨hl, fun a ha => ha⟩
    cases stage with
    | waiting =>
      refine within_bind (Q := H.problem) (within_handling H.exit ?_) fun a ha => ?_
      · refine within_ask.2 ⟨hl, fun a ha => ?_⟩
        cases a with
        | none => exact ha
        | some e =>
          intro e' he'
          have he := H.cross .lifting (ha e rfl)
          unfold Lifting.leftover at he'
          split at he'
          · cases he'
          · cases he'
          · cases he'
            exact he
      · cases a with
        | some e => exact ha
        | none => exact hlast
    | _ => exact hlast

/-- Leaving a level. -/
lemma finish_within {l : Level V} {r : Except E V} (hl : H.value l.program) (hr : H.outcome r) :
    (finish m l r).Within H H.verdict := by
  refine within_bind (Q := H.problem) ?_ fun a ha => ?_
  · cases r with
    | ok v => exact Level.close_within hl
    | error e => exact within_handling hr (Level.close_within hl)
  · cases a with
    | some e => exact H.out m (ha e rfl)
    | none => exact H.out m hr

lemma reporting_within {l : Level V} {r : Report V} {next : Talk V E (Verdict V E)}
    (hl : H.value l.program) (hr : H.report r) (hnext : next.Within H H.verdict) :
    (reporting m l r next).Within H H.verdict := by
  refine within_ask.2 ⟨hr, fun a ha => ?_⟩
  cases a with
  | some e => exact finish_within hl (ha e rfl)
  | none => exact hnext

lemma deliver_within {l : Level V} {value : Talk V E (Except E V)} (hl : H.value l.program)
    (hvalue : value.Within H H.outcome) : (deliver m l value).Within H H.verdict :=
  reporting_within hl hl (within_bind hvalue fun _ hr => finish_within hl hr)

lemma unlessDue_within {l : Level V} {answer : Talk V E (Verdict V E)} (hl : H.value l.program)
    (hanswer : answer.Within H H.verdict) : (unlessDue m l answer).Within H H.verdict := by
  refine within_ask.2 ⟨trivial, fun a ha => ?_⟩
  cases a with
  | goOn => exact hanswer
  | stop how => exact ⟨hl, ha⟩
  | failed e => exact finish_within hl ha

/-- Answering a payload. -/
lemma settle_within {l : Level V} {payload : V} {kind : Kind} (hl : H.value l.program)
    (hp : H.value payload) : (settle (E := E) m l payload kind).Within H H.verdict := by
  cases kind with
  | completion => exact deliver_within hl (within_ask.2 ⟨hp, fun a ha => ha⟩)
  | nested => exact unlessDue_within hl (reporting_within hl hp ⟨hl, hp⟩)
  | passthrough => exact unlessDue_within hl (reporting_within hl hp ⟨hl, hp⟩)
  | service =>
    refine unlessDue_within hl (within_ask.2 ⟨hp, fun a ha => ?_⟩)
    cases a with
    | error e => exact finish_within hl ha
    | ok name =>
      refine within_bind (lookup_within ha) fun a ha' => ?_
      cases a with
      | error e => exact finish_within hl ha'
      | ok v => exact reporting_within hl ha ⟨hl, ha'⟩

/-- One cycle of a level. -/
lemma cycle_within {l : Level V} {how : Resumption V E} (hl : H.value l.program)
    (hh : H.resumption how) : (cycle m l how).Within H H.verdict := by
  refine within_bind (Level.resume_within hl hh) ?_
  rintro ⟨l', a⟩ ⟨hl', ha⟩
  cases a with
  | raises e => exact finish_within hl' ha
  | ends v => exact deliver_within hl' ha
  | yields payload =>
    refine within_bind (classify_within ha) fun a hkind => ?_
    cases a with
    | error e => exact finish_within hl' (hkind e rfl)
    | ok kind => exact settle_within hl' ha

lemma opened_within {q : V} {form : Form} (hq : H.value q) :
    H.value (Level.opened q form).program := by
  cases form <;> exact hq

/-- Taking up a program. -/
lemma takeUp_within {q : V} (hq : H.value q) : (takeUp m q).Within H H.verdict := by
  refine within_ask.2 ⟨hq, fun a ha => ?_⟩
  cases a with
  | error e => exact H.out (V := V) m (r := .error e) ha
  | ok traits =>
    cases hform : m.accept traits with
    | error why =>
      simp only [hform]
      exact within_ask.2 ⟨hq, fun e he => H.out (V := V) m (r := .error e) he⟩
    | ok form =>
      simp only [hform]
      refine within_ask.2 ⟨trivial, fun a ha => ?_⟩
      cases a with
      | none => exact ⟨opened_within hq, H.nothing⟩
      | some e => exact finish_within (opened_within hq) (ha e rfl)

/-- Going on after a nested program. -/
lemma proceed_within {l : Level V} {r : Except E V} (hl : H.value l.program) (hr : H.outcome r) :
    (proceed m l r).Within H H.verdict := by
  cases r with
  | ok v => exact cycle_within hl hr
  | error e => exact finish_within hl hr

/-! ### Runs -/

/-- A run deals in nothing outside a holding. -/
def Run.Within (H : Holding V E) : Run V E → Prop
  | .active waiting t => (∀ l ∈ waiting, H.value l.program) ∧ t.Within H H.verdict
  | .over r => H.outcome r

lemma start_within {q : V} (hq : H.value q) : (Run.start m q : Run V E).Within H :=
  ⟨nofun, takeUp_within hq⟩

/-- From one talk to the next a run stays within a holding. -/
lemma Verdict.next_within {waiting : List (Level V)} {v : Verdict V E}
    (hw : ∀ l ∈ waiting, H.value l.program) (hv : H.verdict v) : (v.next m waiting).Within H := by
  cases v with
  | again l how => exact ⟨hw, cycle_within hv.1 hv.2⟩
  | enter l q => exact ⟨List.forall_mem_cons.2 ⟨hv.1, hw⟩, takeUp_within hv.2⟩
  | leave r =>
    cases waiting with
    | nil => exact hv
    | cons l waiting =>
      obtain ⟨hl, hw⟩ := List.forall_mem_cons.1 hw
      exact ⟨hw, proceed_within hl hv⟩

end

end Provision
