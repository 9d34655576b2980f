import Provision.Proofs.Discipline

/-!
Protocols: through which of its methods an object is driven.

Whether an object can be driven, and how, is found out again wherever it is met: as a payload, as a
program, and when it is resumed and closed. `Surface` is what objects expose, which stays as it is
during a run, and `Surface.Shows` what a truthful look at an object tells of it. A `Licence` says
what may be done to which objects; every part of a level keeps to it as long as the answers grant
what is done (`cycle_licensed`, `takeUp_licensed`, `proceed_licensed`), and so does every run
(`Run.Goes.licensed`).

* `Request.calls`: the method that a request calls, and of which object;
* `Run.Goes.refused`: what becomes of a run in one go that meets an asynchronous program;
* `protocol_choice_is_uniform`: both protocols at every depth, for objects that expose any of their
  methods.
-/

namespace Provision

variable {V E α β : Type}

/-! ### Licences -/

/-- What may be done to objects, and what may be thrown. -/
structure Licence (V E : Type) where
  /-- Which programs may be resumed and closed through a protocol. -/
  drives : Protocol → V → Prop
  throws : E → Prop
  /-- What may be taken up as a program, to be driven or refused. -/
  takes : V → Prop
  /-- What may be closed although it is no program. -/
  discards : V → Prop
  refuses : V → Refusal → Prop

namespace Licence

variable (L : Licence V E)

def permits : Resumption V E → Prop
  | .send _ => True
  | .throw e => L.throws e

/-- A request does nothing without licence. -/
def allows : Request V E → Prop
  | .inspect v .program => L.takes v
  | .resume via p how => L.drives via p ∧ L.permits how
  | .close via p => L.drives via p
  | .discard v => L.discards v
  | .complain (.refused v why) => L.refuses v why
  | _ => True

/-- An answer leads to nothing without licence. -/
def grants (m : Manner) : Exchange V E → Prop
  | ⟨.inspect v .program, .ok t⟩ =>
    (∀ form, m.accept t = .ok form → L.drives form.via v) ∧
      ∀ why, m.accept t = .error why → L.refuses v why
  | ⟨.inspect v .payload, .ok t⟩ => t.kind = .error .coroutine → L.discards v
  | ⟨.due, .stop how⟩ => L.permits how
  | _ => True

/-- The monitor that allows nothing without licence. -/
def monitor (m : Manner) : Monitor V E Unit where
  allows _ q := L.allows q
  moves _ x _ := L.grants m x
  turned _ := ()
  turned_turned _ := rfl
  moves_turned _ h := h

/-- The program of a level may be driven as it is. -/
def covers (l : Level V) : Prop := L.drives l.form.via l.program

def verdict : Verdict V E → Prop
  | .again l how => L.covers l ∧ L.permits how
  | .enter l _ => L.covers l
  | .leave _ => True

/-- A verdict among levels that wait. -/
def Suits (waiting : List (Level V)) (v : Verdict V E) : Prop :=
  (∀ l ∈ waiting, L.covers l) ∧ L.verdict v

end Licence

/-- A talk does nothing without licence, as long as the answers grant it. -/
def Talk.Licensed (L : Licence V E) (m : Manner) (P : α → Prop) (t : Talk V E α) : Prop :=
  t.Keeps (L.monitor m) (fun _ a => P a) ()

section

variable {L : Licence V E} {m : Manner} {P : α → Prop}

@[simp]
lemma licensed_done {a : α} : (Talk.done a : Talk V E α).Licensed L m P ↔ P a := Iff.rfl

@[simp]
lemma licensed_ask {q : Request V E} {next : q.Answer → Talk V E α} :
    (Talk.ask q next).Licensed L m P ↔
      L.allows q ∧ ∀ a, L.grants m ⟨q, a⟩ → (next a).Licensed L m P :=
  and_congr_right fun _ => ⟨fun h a ha => h a () ha, fun h a _ ha => h a ha⟩

lemma licensed_bind {f : β → Talk V E α} {t : Talk V E β} {Q : β → Prop} (ht : t.Licensed L m Q)
    (hf : ∀ b, Q b → (f b).Licensed L m P) : (t.bind f).Licensed L m P :=
  (Talk.keeps_bind t).2 (ht.mono fun _ => hf)

lemma licensed_handling {e : E} {t : Talk V E α} (ht : t.Licensed L m P) :
    (Talk.handling e t).Licensed L m P :=
  licensed_ask.2 ⟨trivial, fun _ _ => licensed_bind ht fun _ ha =>
    licensed_ask.2 ⟨trivial, fun _ _ => ha⟩⟩

/-- A request that needs no licence, and whose answer needs to grant nothing. -/
lemma licensed_free {q : Request V E} {next : q.Answer → Talk V E α} (hq : L.allows q)
    (hnext : ∀ a, (next a).Licensed L m P) : (Talk.ask q next).Licensed L m P :=
  licensed_ask.2 ⟨hq, fun a _ => hnext a⟩

/-! ### Every part of a level keeps to a licence -/

lemma lookup_licensed (name : V) :
    (lookup name).Licensed L m (fun _ : Except E V => True) := by
  refine licensed_free trivial fun a => ?_
  cases a with
  | found v => trivial
  | failed e => trivial
  | absent said =>
    refine licensed_handling (licensed_free trivial fun a => ?_)
    cases a with
    | some e => trivial
    | none => exact licensed_free trivial fun _ => trivial

lemma classify_licensed (payload : V) :
    (classify payload).Licensed L m (fun _ : Except E Kind => True) := by
  refine licensed_ask.2 ⟨trivial, fun a ha => ?_⟩
  cases a with
  | error e => trivial
  | ok traits =>
    cases hkind : traits.kind with
    | ok kind => simp [hkind]
    | error why =>
      cases why with
      | uncalled =>
        simp only [hkind]
        exact licensed_free trivial fun _ => trivial
      | coroutine =>
        simp only [hkind]
        refine licensed_free (ha hkind) fun a => ?_
        cases a with
        | some e => trivial
        | none => exact licensed_free trivial fun _ => trivial

variable [ErrorLike E]

lemma throwOn_licensed {q : V} {e : E} (hq : L.drives .sync q) (he : L.throws e) :
    (Lifting.throwOn q e).Licensed L m (fun _ => True) := by
  unfold Lifting.throwOn
  split
  · trivial
  · exact licensed_handling (licensed_free hq fun _ => trivial)
  · exact licensed_handling (licensed_free ⟨hq, he⟩ fun _ => trivial)

variable [ValueLike V]

lemma Lifting.resume_licensed {q : V} {stage : Lifting.Stage} {how : Resumption V E}
    (hq : L.drives .sync q) (hh : L.permits how) :
    (Lifting.resume q stage how).Licensed L m (fun _ => True) := by
  cases stage with
  | unstarted =>
    cases how with
    | send v => exact licensed_free ⟨hq, trivial⟩ fun _ => trivial
    | throw e =>
      simp only [Lifting.resume]
      split <;> trivial
  | waiting =>
    cases how with
    | send v => exact licensed_free ⟨hq, hh⟩ fun _ => trivial
    | throw e => exact throwOn_licensed hq hh
  | delivering =>
    cases how with
    | send v => trivial
    | throw e =>
      simp only [Lifting.resume]
      split <;> trivial
  | finished => cases how <;> trivial

/-- A level that is resumed is driven as before. -/
lemma Level.resume_licensed {l : Level V} {how : Resumption V E} (hl : L.covers l)
    (hh : L.permits how) : (l.resume how).Licensed L m (fun o => L.covers o.1) := by
  obtain ⟨program, via | stage⟩ := l
  · exact licensed_free ⟨hl, hh⟩ fun _ => hl
  · exact licensed_bind (Lifting.resume_licensed hl hh) fun _ _ => hl

omit [ValueLike V] in
lemma Level.close_licensed {l : Level V} (hl : L.covers l) :
    l.close.Licensed L m (fun _ : Option E => True) := by
  obtain ⟨program, via | stage⟩ := l
  · exact licensed_free hl fun _ => trivial
  · have hlast : (Talk.ask (.close .sync program) .done).Licensed L m (fun _ : Option E => True) :=
      licensed_free hl fun _ => trivial
    cases stage with
    | waiting =>
      refine licensed_bind (Q := fun _ => True) (licensed_handling (licensed_free hl fun a => ?_))
        fun a _ => ?_
      · cases a <;> trivial
      · cases a with
        | some e => trivial
        | none => exact hlast
    | _ => exact hlast

omit [ValueLike V] in
lemma finish_licensed {l : Level V} (hl : L.covers l) (r : Except E V) :
    (finish m l r).Licensed L m L.verdict := by
  refine licensed_bind (Q := fun _ => True) ?_ fun a _ => ?_
  · cases r with
    | ok v => exact Level.close_licensed hl
    | error e => exact licensed_handling (Level.close_licensed hl)
  · cases a <;> trivial

omit [ValueLike V] in
lemma reporting_licensed {l : Level V} {r : Report V} {next : Talk V E (Verdict V E)}
    (hl : L.covers l) (hnext : next.Licensed L m L.verdict) :
    (reporting m l r next).Licensed L m L.verdict := by
  refine licensed_free trivial fun a => ?_
  cases a with
  | some e => exact finish_licensed hl _
  | none => exact hnext

omit [ValueLike V] in
lemma deliver_licensed {l : Level V} {value : Talk V E (Except E V)} (hl : L.covers l)
    (hvalue : value.Licensed L m (fun _ => True)) :
    (deliver m l value).Licensed L m L.verdict :=
  reporting_licensed hl (licensed_bind hvalue fun r _ => finish_licensed hl r)

omit [ValueLike V] in
lemma unlessDue_licensed {l : Level V} {answer : Talk V E (Verdict V E)} (hl : L.covers l)
    (hanswer : answer.Licensed L m L.verdict) : (unlessDue m l answer).Licensed L m L.verdict := by
  refine licensed_ask.2 ⟨trivial, fun a ha => ?_⟩
  cases a with
  | goOn => exact hanswer
  | stop how => exact ⟨hl, ha⟩
  | failed e => exact finish_licensed hl _

omit [ValueLike V] in
lemma settle_licensed {l : Level V} (hl : L.covers l) (payload : V) (kind : Kind) :
    (settle (E := E) m l payload kind).Licensed L m L.verdict := by
  cases kind with
  | completion => exact deliver_licensed hl (licensed_free trivial fun _ => trivial)
  | nested => exact unlessDue_licensed hl (reporting_licensed hl hl)
  | passthrough => exact unlessDue_licensed hl (reporting_licensed hl ⟨hl, trivial⟩)
  | service =>
    refine unlessDue_licensed hl (licensed_free trivial fun a => ?_)
    cases a with
    | error e => exact finish_licensed hl _
    | ok name =>
      refine licensed_bind (lookup_licensed name) fun a _ => ?_
      cases a with
      | error e => exact finish_licensed hl _
      | ok v => exact reporting_licensed hl ⟨hl, trivial⟩

lemma cycle_licensed {l : Level V} {how : Resumption V E} (hl : L.covers l) (hh : L.permits how) :
    (cycle m l how).Licensed L m L.verdict := by
  refine licensed_bind (Level.resume_licensed hl hh) ?_
  rintro ⟨l', a⟩ hl'
  cases a with
  | raises e => exact finish_licensed hl' _
  | ends v => exact deliver_licensed hl' trivial
  | yields payload =>
    refine licensed_bind (classify_licensed payload) fun a _ => ?_
    cases a with
    | error e => exact finish_licensed hl' _
    | ok kind => exact settle_licensed hl' payload kind

/-- What follows once a value was looked at as a program. -/
lemma takeUp_answered {q : V} {next : Except E Traits → Talk V E (Verdict V E)}
    (hnext : takeUp m q = .ask (.inspect q .program) next) {a : Except E Traits}
    (ha : L.grants m ⟨.inspect q .program, a⟩) : (next a).Licensed L m L.verdict := by
  unfold takeUp at hnext
  cases hnext
  cases a with
  | error e => trivial
  | ok traits =>
    cases hform : m.accept traits with
    | error why =>
      simp only [hform]
      exact licensed_free (ha.2 why hform) fun _ => trivial
    | ok form =>
      have hl : L.covers (Level.opened q form) := by
        rw [Licence.covers, Level.opened_form, Level.opened_program]
        exact ha.1 form hform
      simp only [hform]
      refine licensed_free trivial fun a => ?_
      cases a with
      | none => exact ⟨hl, trivial⟩
      | some e => exact finish_licensed hl _

lemma takeUp_licensed {q : V} (hq : L.takes q) : (takeUp m q).Licensed L m L.verdict :=
  licensed_ask.2 ⟨hq, fun _ ha => takeUp_answered rfl ha⟩

lemma proceed_licensed {l : Level V} (hl : L.covers l) (r : Except E V) :
    (proceed m l r).Licensed L m L.verdict := by
  cases r with
  | ok v => exact cycle_licensed hl trivial
  | error e => exact finish_licensed hl (.error e)

/-! ### Runs -/

lemma next_licensed (htakes : ∀ q, L.takes q) (s : Unit) (waiting : List (Level V)) (v : Verdict V E)
    (hv : L.Suits waiting v) :
    (v.next m waiting).Keeps (L.monitor m) (fun _ waiting v => L.Suits waiting v)
      (fun _ _ => True) s := by
  have hall : ∀ {waiting : List (Level V)} {t : Talk V E (Verdict V E)},
      (∀ l ∈ waiting, L.covers l) → t.Licensed L m L.verdict →
      (Run.active waiting t).Keeps (L.monitor m) (fun _ waiting v => L.Suits waiting v)
        (fun _ _ => True) s :=
    fun hw ht => Talk.Keeps.mono ht fun _ _ hv => ⟨hw, hv⟩
  obtain ⟨hw, hv⟩ := hv
  cases v with
  | again l how => exact hall hw (cycle_licensed hv.1 hv.2)
  | enter l q => exact hall (List.forall_mem_cons.2 ⟨hv, hw⟩) (takeUp_licensed (htakes q))
  | leave r =>
    cases waiting with
    | nil => trivial
    | cons l waiting =>
      obtain ⟨hl, hw⟩ := List.forall_mem_cons.1 hw
      exact hall hw (proceed_licensed hl r)

omit [ErrorLike E] [ValueLike V] in
lemma Licence.watches {h : History V E} (hh : ∀ x ∈ h, L.grants m x) :
    (L.monitor m).Watches () h () := by
  induction h with
  | nil => rfl
  | cons x h ih =>
    obtain ⟨hx, hh⟩ := List.forall_mem_cons.1 hh
    exact ⟨(), hx, ih hh⟩

/-- A run does nothing without licence, as long as the answers grant it. -/
lemma Run.Goes.licensed {q : V} {h h' : History V E} {x : Exchange V E} {run : Run V E}
    (htakes : ∀ q, L.takes q) (hg : (Run.start m q).Goes m (h ++ x :: h') run) (hh : ∀ y ∈ h, L.grants m y) :
    L.allows x.request := by
  have hstart : (Run.start m q).Keeps (L.monitor m) (fun _ waiting v => L.Suits waiting v)
      (fun _ _ => True) () :=
    Talk.Keeps.mono (takeUp_licensed (htakes q)) fun _ _ hv => ⟨nofun, hv⟩
  obtain hx | hx := hg.allows (next_licensed htakes) (Licence.watches hh) (.inl hstart) <;>
    exact hx

/-- Everything is allowed but to take up another program. -/
def Licence.staying : Licence V E where
  drives _ _ := True
  throws _ := True
  takes _ := False
  discards _ := True
  refuses _ _ := True

omit [ErrorLike E] [ValueLike V] in
lemma Licence.staying_permits (how : Resumption V E) : Licence.staying.permits how := by
  cases how <;> trivial

omit [ErrorLike E] [ValueLike V] in
/-- If any program may be driven, discarded and refused, then only stops are to be granted. -/
lemma Licence.grants_of_free (hdrives : ∀ via p, L.drives via p) (hdiscards : ∀ v, L.discards v)
    (hrefuses : ∀ v why, L.refuses v why) {x : Exchange V E}
    (hx : ∀ how, x = ⟨.due, .stop how⟩ → L.permits how) : L.grants m x := by
  obtain ⟨q, a⟩ := x
  cases q with
  | inspect v role =>
    cases a with
    | error e => cases role <;> trivial
    | ok t =>
      cases role with
      | payload => exact fun _ => hdiscards v
      | program => exact ⟨fun form _ => hdrives form.via v, fun why _ => hrefuses v why⟩
  | due =>
    cases a with
    | stop how => exact hx how rfl
    | _ => trivial
  | _ => trivial

omit [ErrorLike E] [ValueLike V] in
lemma Licence.staying_grants (x : Exchange V E) : Licence.staying.grants m x :=
  Licence.grants_of_free (fun _ _ => trivial) (fun _ => trivial) (fun _ _ => trivial)
    fun how _ => Licence.staying_permits how

/-- A run is about to take up a program, or it does not take up any as long as its talk goes on. -/
def Run.Staying (m : Manner) : Run V E → Prop
  | .active _ talk => (∃ q, talk = takeUp m q) ∨ talk.Licensed .staying m fun _ => True
  | .over _ => True

/-- Every talk of a run takes up a program at its beginning or never. -/
lemma Run.Goes.staying {r r' : Run V E} {h : History V E} (hg : r.Goes m h r')
    (hr : r.Staying m) : r'.Staying m := by
  have hstays : ∀ {t : Talk V E (Verdict V E)}, t.Licensed .staying m (Licence.verdict .staying) →
      t.Licensed .staying m fun _ => True :=
    fun ht => Talk.Keeps.mono ht fun _ _ _ => trivial
  induction hg with
  | here => exact hr
  | @decided waiting v h r _ ih =>
    refine ih ?_
    cases v with
    | again l how =>
      exact .inr (hstays (cycle_licensed trivial (Licence.staying_permits how)))
    | enter l q => exact .inl ⟨q, rfl⟩
    | leave r =>
      cases waiting with
      | nil => trivial
      | cons l waiting =>
        have hl : (Licence.staying : Licence V E).covers l := trivial
        exact .inr (hstays (proceed_licensed hl r))
  | @answered waiting q next h r a _ ih =>
    refine ih ?_
    obtain ⟨p, hp⟩ | ht := hr
    · obtain rfl : q = .inspect p .program := by
        unfold takeUp at hp
        cases hp
        rfl
      exact .inr (hstays (takeUp_answered hp.symm (Licence.staying_grants _)))
    · exact .inr ((licensed_ask.1 ht).2 a (Licence.staying_grants _))

/-- A value is looked at as a program when it is taken up. -/
lemma Run.Goes.takeUp_of_inspect {q v : V} {h : History V E} {waiting : List (Level V)}
    {next : Except E Traits → Talk V E (Verdict V E)}
    (hg : (Run.start m q).Goes m h (.active waiting (.ask (.inspect v .program) next))) :
    takeUp m v = .ask (.inspect v .program) next := by
  obtain ⟨p, hp⟩ | ht := hg.staying (.inl ⟨q, rfl⟩)
  · unfold takeUp at hp ⊢
    cases hp
    rfl
  · exact absurd (licensed_ask.1 ht).1 id

/-! ### Programs that are refused -/

/-- A level is left with an error in a run in one go: those who wait are left with it as well. -/
lemma Run.Goes.left {waiting : List (Level V)} {e : E} {h : History V E} {run : Run V E}
    (hg : (Run.active waiting (.done (.leave (.error e)))).Goes .blocking h run) :
    (∀ y ∈ h, y.request.Leaves) ∧
    (∃ later, ClosedInTurn (waiting.map (·.program)) (History.closings h ++ later) ∧
      ((∃ result, run = .over result) → later = [])) ∧
    (∀ result, run = .over result →
      ∃ e', result = .error e' ∧ ((∀ y ∈ h, y.calm = true) → e' = e)) ∧
    ∀ (σ : Type) (host : Host V E σ) (s : σ),
      ∃ fuel e', (run.conduct .blocking host fuel s).1 = some (.error e') := by
  have hkeeps : (Run.active waiting (.done (.leave (.error e)))).Keeps (Fate.monitor .blocking)
      (Fate.Unwinds .blocking (waiting.map (·.program))) (Fate.Unwound (waiting.map (·.program)))
      (.failed [] [] (some e)) := by
    refine ⟨[], [], some e, e, [], rfl, rfl, rfl, .nil, ?_⟩
    rintro e' ⟨⟩
    exact ⟨rfl, rfl⟩
  obtain ⟨hleaves, error, -, hrun⟩ := hg.unwinds hkeeps
  refine ⟨hleaves, Run.unwinds_in_turn hrun, ?_, fun σ host s => Run.conduct_unwinds host hrun s⟩
  rintro result rfl
  obtain ⟨e', rfl, -, he⟩ := hg.unwound hkeeps
  exact ⟨e', rfl, fun hy => he hy e rfl⟩

/-- A run in one go refuses a program: it complains, and whoever waits is left with that error. -/
lemma Run.Goes.refused {q v : V} {before after : History V E} {t : Traits} {why : Refusal}
    {run : Run V E}
    (hg : (Run.start .blocking q).Goes .blocking (before ++ ⟨.inspect v .program, .ok t⟩ :: after) run)
    (ht : Manner.blocking.accept t = .error why) : ∃ waiting,
    (Run.start .blocking q).Goes .blocking before (.active waiting (takeUp .blocking v)) ∧
    ((after = [] ∧ run = .active waiting (.ask (.complain (.refused v why)) fun e =>
        .done (.leave (.error e)))) ∨
      ∃ e rest, after = ⟨.complain (.refused v why), e⟩ :: rest ∧
        (Run.active waiting (.done (.leave (.error e)))).Goes .blocking rest run) := by
  obtain ⟨r, hbefore, hafter⟩ := hg.split
  obtain ⟨waiting, next, hask, hnext⟩ := hafter.cons_inv
  have hat := hbefore.append hask
  rw [List.append_nil] at hat
  have htake := hat.takeUp_of_inspect
  refine ⟨waiting, by rw [htake]; exact hat, ?_⟩
  have hcomplain : next (.ok t) = .ask (.complain (.refused v why)) fun e =>
      .done (.leave (.error e)) := by
    unfold takeUp at htake
    cases htake
    simp only [ht]
    rfl
  rw [hcomplain] at hnext
  cases hnext with
  | here => exact .inl ⟨rfl, rfl⟩
  | answered e hrest => exact .inr ⟨e, _, rfl, hrest⟩

end

/-! ### What objects expose -/

/-- Only what can be driven is read as a nested program. -/
lemma Traits.isProgram_of_nested (t : Traits) (h : t.kind = .ok .nested) : t.isProgram = true := by
  unfold Traits.kind at h
  split at h
  · cases h
  · split at h
    · assumption
    · split at h
      · cases h
      · split at h <;> cases h

/-- What can be driven is no mistake. -/
lemma Traits.not_isProgram_of_error (t : Traits) {why : Mistake} (h : t.kind = .error why) :
    t.isProgram = false := by
  unfold Traits.kind at h
  split at h
  · cases h
  · split at h
    · cases h
    · rw [← Bool.not_eq_true]
      assumption

/-- The methods of the two protocols. -/
inductive Method where
  | send
  | throw
  | close
  | next
  | asend
  | athrow
  | aclose
  | anext
  deriving DecidableEq

/-- The methods that an object has to expose to be driven through a protocol. -/
def Protocol.methods : Protocol → List Method
  | .sync => [.send, .throw, .close, .next]
  | .async => [.asend, .athrow, .aclose, .anext]

/-- The method that a request calls, and of which object. -/
def Request.calls : Request V E → Option (V × Method)
  | .resume .sync p (.send _) => some (p, .send)
  | .resume .sync p (.throw _) => some (p, .throw)
  | .resume .async p (.send _) => some (p, .asend)
  | .resume .async p (.throw _) => some (p, .athrow)
  | .close .sync p => some (p, .close)
  | .close .async p => some (p, .aclose)
  | .discard v => some (v, .close)
  | _ => none

/-- What objects expose, and which of them are tokens. -/
structure Surface (V : Type) where
  exposes : V → Method → Bool
  isToken : V → Bool

namespace Surface

variable (S : Surface V)

/-- An object exposes a protocol in full. -/
def supports (v : V) (via : Protocol) : Bool := via.methods.all (S.exposes v)

/-- What a truthful look at an object tells. It goes no further than it has to: a payload that is a
token is not looked at any more, and an asynchronous object not for the synchronous protocol. -/
def Shows (v : V) (role : Role) (t : Traits) : Prop :=
  if role = .payload ∧ S.isToken v = true then t.token = true
  else (role = .payload → t.token = false) ∧ t.async = S.supports v .async ∧
    (t.async = false → t.sync = S.supports v .sync)

instance (v : V) (role : Role) (t : Traits) : Decidable (S.Shows v role t) :=
  inferInstanceAs (Decidable (ite _ _ _))

/-- Whenever an object is looked at, this is told truthfully. -/
def Truthful : Exchange V E → Prop
  | ⟨.inspect v role, .ok t⟩ => S.Shows v role t
  | _ => True

/-- An object is driven through its asynchronous protocol if it has one, and through the synchronous
protocol otherwise. -/
def Drives (m : Manner) : Protocol → V → Prop
  | .async, v => S.supports v .async = true ∧ m = .cooperative
  | .sync, v => S.supports v .async = false ∧ S.supports v .sync = true

/-- An object exposes no protocol in full. -/
def Inert (v : V) : Prop := S.supports v .async = false ∧ S.supports v .sync = false

/-- The licence to do with objects what they are exposed for. -/
def licence (m : Manner) : Licence V E where
  drives := S.Drives m
  throws _ := True
  takes _ := True
  discards := S.Inert
  refuses v
    | .notProgram => S.Inert v
    | .notSynchronous => m = .blocking ∧ S.supports v .async = true

variable {S} {m : Manner} {v : V} {role : Role} {t : Traits}

lemma Shows.program (h : S.Shows v .program t) : t.async = S.supports v .async ∧
    (t.async = false → t.sync = S.supports v .sync) := by
  rw [Shows, if_neg (by simp)] at h
  exact h.2

/-- What a payload shows that is read as anything but a service. -/
lemma Shows.payload (h : S.Shows v .payload t) (ht : t.kind ≠ .ok .service) :
    t.async = S.supports v .async ∧ (t.async = false → t.sync = S.supports v .sync) := by
  unfold Shows at h
  split at h
  · exact absurd (by rw [Traits.kind, if_pos h]) ht
  · exact h.2

/-- An object that is accepted is driven through the protocol that it is to be driven through. -/
lemma Shows.drives (h : S.Shows v .program t) {form : Form} (hform : m.accept t = .ok form) :
    S.Drives m form.via v := by
  obtain ⟨hasync, hsync⟩ := h.program
  cases ha : t.async with
  | true =>
    rw [ha] at hasync
    cases m with
    | blocking => simp [Manner.accept, ha] at hform
    | cooperative =>
      obtain rfl : Form.direct .async = form := by simpa [Manner.accept, ha] using hform
      exact ⟨hasync.symm, rfl⟩
  | false =>
    rw [ha] at hasync
    cases hs : t.sync with
    | true =>
      have hvia : form.via = .sync := by
        cases m <;>
          · obtain rfl : _ = form := by simpa [Manner.accept, ha, hs] using hform
            rfl
      rw [hvia]
      exact ⟨hasync.symm, by rw [← hsync ha, hs]⟩
    | false => cases m <;> simp [Manner.accept, ha, hs] at hform

/-- An object that is refused is no program, or asynchronous and driven in one go. -/
lemma Shows.refuses (h : S.Shows v .program t) {why : Refusal} (hwhy : m.accept t = .error why) :
    (S.licence m : Licence V E).refuses v why := by
  obtain ⟨hasync, hsync⟩ := h.program
  cases ha : t.async with
  | true =>
    cases m with
    | blocking =>
      obtain rfl : Refusal.notSynchronous = why := by simpa [Manner.accept, ha] using hwhy
      exact ⟨rfl, by rw [← hasync, ha]⟩
    | cooperative => simp [Manner.accept, ha] at hwhy
  | false =>
    cases hs : t.sync with
    | true => cases m <;> simp [Manner.accept, ha, hs] at hwhy
    | false =>
      have hinert : S.Inert v := ⟨by rw [← hasync, ha], by rw [← hsync ha, hs]⟩
      obtain rfl : Refusal.notProgram = why := by
        cases m <;> simpa [Manner.accept, ha, hs] using hwhy
      exact hinert

/-- What is read as a nested program exposes a protocol. -/
lemma Shows.nested (h : S.Shows v .payload t) (ht : t.kind = .ok .nested) : ¬ S.Inert v := by
  obtain ⟨hasync, hsync⟩ := h.payload (by rw [ht]; simp)
  rintro ⟨ha, hs⟩
  rw [ha] at hasync
  have hprogram := t.isProgram_of_nested ht
  rw [Traits.isProgram, hasync, hsync hasync, hs] at hprogram
  cases hprogram

/-- What is read as a coroutine exposes no protocol. -/
lemma Shows.coroutine (h : S.Shows v .payload t) (ht : t.kind = .error .coroutine) :
    S.Inert v := by
  obtain ⟨hasync, hsync⟩ := h.payload (by rw [ht]; simp)
  have hprogram := t.not_isProgram_of_error ht
  obtain ⟨ha, hs⟩ := Bool.or_eq_false_iff.1 hprogram
  exact ⟨by rw [← hasync, ha], by rw [← hsync ha, hs]⟩

lemma Shows.grants (h : S.Shows v role t) :
    (S.licence m : Licence V E).grants m ⟨.inspect v role, .ok t⟩ := by
  cases role with
  | payload => exact h.coroutine
  | program => exact ⟨fun _ => h.drives, fun _ => h.refuses⟩

/-- Whatever else is answered, truthful looks grant what is done. -/
lemma grants_of_truthful {x : Exchange V E} (hx : S.Truthful x) : (S.licence m).grants m x := by
  obtain ⟨q, a⟩ := x
  cases q with
  | inspect v role =>
    cases a with
    | error e => cases role <;> trivial
    | ok t => exact Shows.grants hx
  | due =>
    cases a with
    | stop how => cases how <;> trivial
    | _ => trivial
  | _ => trivial

/-- Whatever a request calls is called through the protocol of the object. -/
lemma calls_of_allows {q : Request V E} (hq : (S.licence m).allows q) {method : Method}
    (hcalls : q.calls = some (v, method)) :
    method ≠ .next ∧ method ≠ .anext ∧
      (S.supports v .async = true → m = .cooperative ∧ method ∈ Protocol.async.methods) ∧
      (S.supports v .async = false → method ∈ Protocol.sync.methods) := by
  have hof : ∀ via method, S.Drives m via v → method ∈ via.methods → method ≠ .next →
      method ≠ .anext → method ≠ .next ∧ method ≠ .anext ∧
        (S.supports v .async = true → m = .cooperative ∧ method ∈ Protocol.async.methods) ∧
        (S.supports v .async = false → method ∈ Protocol.sync.methods) := by
    intro via method hdrives hmem hnext hanext
    refine ⟨hnext, hanext, fun ha => ?_, fun ha => ?_⟩
    · cases via with
      | sync => exact absurd ha (by rw [hdrives.1]; decide)
      | async => exact ⟨hdrives.2, hmem⟩
    · cases via with
      | sync => exact hmem
      | async => exact absurd hdrives.1 (by rw [ha]; decide)
  cases q with
  | resume via p how =>
    have hdrives : S.Drives m via p := hq.1
    cases via <;> cases how <;> cases hcalls <;>
      exact hof _ _ hdrives (by decide) (by decide) (by decide)
  | close via p =>
    have hdrives : S.Drives m via p := hq
    cases via <;> cases hcalls <;> exact hof _ _ hdrives (by decide) (by decide) (by decide)
  | discard v =>
    cases hcalls
    exact ⟨by decide, by decide, fun ha => absurd ha (by rw [hq.1]; decide), fun _ => by decide⟩
  | _ => cases hcalls

end Surface

/-! ### The choice of protocol -/

section

variable [ValueLike V] [ErrorLike E]

/-- **The choice of protocol is uniform.** What objects expose stays as it is, and whenever an
object is looked at this is told truthfully. In every run of either driver, at any depth and
whatever comes of it,

* of an object with the asynchronous protocol, whatever else it exposes, only the methods of this
  protocol are called, and none at all in a run that goes in one go; of any other object only the
  methods of the synchronous protocol; and neither method for the next item is called of any object;
* a payload that is read as a nested program is accepted when it is taken up, unless it is
  asynchronous and the run goes in one go, and it is never refused for not being a program;
* a run in one go that takes up an asynchronous program calls nothing of it and complains. The
  driver's call for this program fails with that error; then the programs around it are closed,
  innermost first, nothing else is done, and the run comes to the same error, or to one that comes
  out of a closing. With any surroundings it comes to an error. -/
theorem protocol_choice_is_uniform {S : Surface V} {m : Manner} {q : V} {h : History V E}
    {run : Run V E} (hg : (Run.start m q).Goes m h run)
    (hS : ∀ x ∈ h, S.Truthful x) :
    (∀ x ∈ h, ∀ v method, x.request.calls = some (v, method) →
      method ≠ .next ∧ method ≠ .anext ∧
      (S.supports v .async = true → m = .cooperative ∧ method ∈ Protocol.async.methods) ∧
      (S.supports v .async = false → method ∈ Protocol.sync.methods)) ∧
    (∀ v t, ⟨.inspect v .payload, .ok t⟩ ∈ h → t.kind = .ok .nested →
      (∀ t', ⟨.inspect v .program, .ok t'⟩ ∈ h → (∃ form, m.accept t' = .ok form) ∨
        m = .blocking ∧ S.supports v .async = true ∧ m.accept t' = .error .notSynchronous) ∧
      ∀ e, ⟨.complain (.refused v .notProgram), e⟩ ∉ h) ∧
    (m = .blocking → ∀ before v t after, h = before ++ ⟨.inspect v .program, .ok t⟩ :: after →
      S.supports v .async = true →
      (∀ x ∈ h, ∀ method, x.request.calls ≠ some (v, method)) ∧
      (∀ (σ : Type) (host : Host V E σ) (s : σ),
        ∃ fuel e, (run.conduct .blocking host fuel s).1 = some (.error e)) ∧
      ∃ waiting,
        (Run.start .blocking q).Goes .blocking before (.active waiting (takeUp .blocking v)) ∧
        ((after = [] ∧ ∃ next,
            run = .active waiting (.ask (.complain (.refused v .notSynchronous)) next)) ∨
          ∃ e rest, after = ⟨.complain (.refused v .notSynchronous), e⟩ :: rest ∧
            (Run.active waiting (.done (.leave (.error e)))).Goes .blocking rest run ∧
            (∀ y ∈ rest, y.request.Leaves) ∧
            (∃ later, ClosedInTurn (waiting.map (·.program)) (History.closings rest ++ later) ∧
              ((∃ result, run = .over result) → later = [])) ∧
            ∀ result, run = .over result →
              ∃ e', result = .error e' ∧ ((∀ y ∈ rest, y.calm = true) → e' = e))) := by
  have hgrants : ∀ x ∈ h, (S.licence m).grants m x :=
    fun x hx => S.grants_of_truthful (hS x hx)
  have hallows : ∀ x ∈ h, (S.licence m).allows x.request := by
    intro x hx
    obtain ⟨before, after, rfl⟩ := List.append_of_mem hx
    exact hg.licensed (fun _ => trivial) fun y hy => hgrants y (List.mem_append_left _ hy)
  have hcalls {x : Exchange V E} (hx : x ∈ h) {v : V} {method : Method}
      (hcall : x.request.calls = some (v, method)) :=
    S.calls_of_allows (hallows x hx) hcall
  refine ⟨fun x hx v method hcall => hcalls hx hcall,
    fun v t hv ht => ⟨fun t' hv' => ?_, fun e he => ?_⟩, ?_⟩
  · have hpayload : S.Shows v .payload t := hS _ hv
    have hprogram : S.Shows v .program t' := hS _ hv'
    cases haccept : m.accept t' with
    | ok form => exact .inl ⟨form, rfl⟩
    | error why =>
      have hrefuses : (S.licence m : Licence V E).refuses v why := hprogram.refuses haccept
      cases why with
      | notProgram => exact absurd hrefuses (hpayload.nested ht)
      | notSynchronous => exact .inr ⟨hrefuses.1, hrefuses.2, rfl⟩
  · have hpayload : S.Shows v .payload t := hS _ hv
    exact hpayload.nested ht (hallows _ he)
  · rintro rfl before v t after rfl ha
    have ht : Manner.blocking.accept t = .error .notSynchronous := by
      have hprogram : S.Shows v .program t := hS ⟨.inspect v .program, .ok t⟩ (by simp)
      have hasync := hprogram.program.1
      rw [ha] at hasync
      simp [Manner.accept, hasync]
    obtain ⟨waiting, hat, hafter⟩ := hg.refused ht
    refine ⟨fun x hx method hcall => ?_, ?_, waiting, hat, ?_⟩
    · cases ((hcalls hx hcall).2.2.1 ha).1
    · intro σ host s
      obtain ⟨-, rfl⟩ | ⟨e, rest, -, hrest⟩ := hafter
      · let e := (host (.complain (.refused v .notSynchronous)) s).1
        obtain ⟨-, -, -, hend⟩ := Run.Goes.left (Run.Goes.here (.active waiting (.done (.leave (.error e)))))
        obtain ⟨fuel, e', hfuel⟩ := hend σ host (host (.complain (.refused v .notSynchronous)) s).2
        exact ⟨fuel + 1, e', hfuel⟩
      · exact hrest.left.2.2.2 σ host s
    · obtain ⟨rfl, hrun⟩ | ⟨e, rest, rfl, hrest⟩ := hafter
      · exact .inl ⟨rfl, _, hrun⟩
      · obtain ⟨hleaves, hclosed, hresult, -⟩ := hrest.left
        exact .inr ⟨e, rest, rfl, hrest, hleaves, hclosed, hresult⟩

end

section

open Script

/-- The object `1` exposes both protocols, the others the synchronous one. There are no tokens. -/
def oneAsynchronous : Surface Value where
  exposes v method := v = .object 1 || method ∈ Protocol.sync.methods
  isToken _ := false

/-- What is told of an object with the asynchronous protocol. -/
def asynchronous : Traits := ⟨false, true, false, false, false, false⟩

/-- A program was taken up and has yielded an asynchronous one. -/
def asynchronousYielded : History Value Fault :=
  takenUp (.object 0) ++
    [⟨.resume .sync (.object 0) (.send .none), .yields (.object 1)⟩,
      ⟨.inspect (.object 1) .payload, .ok asynchronous⟩, ⟨.due, .goOn⟩,
      ⟨.report (.nested .blocking (.object 1)), none⟩]

/-- It is refused, and the program around it is closed. -/
def asynchronousRefused : History Value Fault :=
  asynchronousYielded ++ ⟨.inspect (.object 1) .program, .ok asynchronous⟩ ::
    ⟨.complain (.refused (.object 1) .notSynchronous), .raised .ordinary 2⟩ ::
      abandoned (.object 0) (.raised .ordinary 2) none

lemma asynchronousRefused_goes :
    (Run.start .blocking (.object 0)).Goes .blocking asynchronousRefused
      (.over (.error (.raised .ordinary 2))) := by
  have hyield : (cycle .blocking ⟨.object 0, .inl .sync⟩ (.send .none) : Talk Value Fault _).Comes
      [⟨.resume .sync (.object 0) (.send .none), .yields (.object 1)⟩,
        ⟨.inspect (.object 1) .payload, .ok asynchronous⟩, ⟨.due, .goOn⟩,
        ⟨.report (.nested .blocking (.object 1)), none⟩]
      (.enter ⟨.object 0, .inl .sync⟩ (.object 1)) :=
    ⟨_, _, rfl, _, _, rfl, _, _, rfl, _, _, rfl, rfl, rfl⟩
  have hrefuse : (takeUp .blocking (.object 1) : Talk Value Fault _).Comes
      [⟨.inspect (.object 1) .program, .ok asynchronous⟩,
        ⟨.complain (.refused (.object 1) .notSynchronous), .raised .ordinary 2⟩]
      (.leave (.error (.raised .ordinary 2))) :=
    ⟨_, _, rfl, _, _, rfl, rfl, rfl⟩
  have hleave : (proceed .blocking ⟨.object 0, .inl .sync⟩ (.error (.raised .ordinary 2)) :
      Talk Value Fault _).Comes (abandoned (.object 0) (.raised .ordinary 2) none)
      (.leave (.error (.raised .ordinary 2))) :=
    ⟨_, _, rfl, _, _, rfl, _, _, rfl, rfl, rfl⟩
  have hall : (Run.start .blocking (.object 0) : Run Value Fault).Goes .blocking _
      (.over (.error (.raised .ordinary 2))) :=
    .of_comes (takenUp_comes (.object 0)) <| .of_comes hyield <| .of_comes hrefuse <|
      .of_comes hleave (.here _)
  exact hall

/-- An object that exposes both protocols is not touched in a run that goes in one go; the program
around it is closed, and its error comes out. -/
theorem object_with_both_protocols_is_refused :
    (∀ x ∈ asynchronousRefused, oneAsynchronous.Truthful x) ∧
    (∀ x ∈ asynchronousRefused, ∀ method, x.request.calls ≠ some (.object 1, method)) ∧
    ∃ e' : Fault, (.error (.raised .ordinary 2) : Except Fault Value) = .error e' ∧
      e' = .raised .ordinary 2 := by
  have htruthful : ∀ x ∈ asynchronousRefused, oneAsynchronous.Truthful x := by
    have hfirst : oneAsynchronous.Shows (.object 0) .program synchronous := by decide
    have hpayload : oneAsynchronous.Shows (.object 1) .payload asynchronous := by decide
    have hprogram : oneAsynchronous.Shows (.object 1) .program asynchronous := by decide
    simp only [asynchronousRefused, asynchronousYielded, takenUp, abandoned, List.cons_append,
      List.nil_append, List.forall_mem_cons, List.not_mem_nil, false_implies, implies_true]
    exact ⟨hfirst, trivial, trivial, hpayload, trivial, trivial, hprogram, trivial, trivial, trivial,
      trivial, trivial⟩
  obtain ⟨-, -, hrefused⟩ := protocol_choice_is_uniform asynchronousRefused_goes htruthful
  obtain ⟨hcalls, -, waiting, -, ⟨hnil, -⟩ | ⟨e, rest, hafter, -, -, -, hresult⟩⟩ :=
    hrefused rfl asynchronousYielded (.object 1) asynchronous _ rfl (by decide)
  · cases hnil
  · cases hafter
    obtain ⟨e', he, hcalm⟩ := hresult _ rfl
    exact ⟨htruthful, hcalls, e', he, hcalm (by decide)⟩

end

end Provision
