import Provision.Proofs.Evaluation

/-!
Delivery: values that are handed to somebody are not looked into.

A driver reads payloads: it asks what they show, what name a token asks for, which value is in a
completion, and it takes up nested programs. `Subject` is what there is to be read at a moment,
which is what a program has just yielded, and nothing once that was answered. An implementation, the
result of a nested program and the final value of a run are handed on without ever becoming the
subject.

A `Chain` is a program that has a value, or gets it from a service, and any number of programs
around it of which each nests the next one and hands on what it gets, by ending with it or by
yielding a completion of it. The value comes through as it is, whatever it is.

* `Run.Goes.reads`: whatever a run asks about a value, the value is the subject;
* `Chain.evaluates`: a chain is evaluated to the value it hands on;
* `delivered_values_are_not_interpreted`: both, with the deliveries that a chain takes.
-/

namespace Provision

variable {V E : Type}

/-! ### What is read -/

/-- What there is to be read: nothing, a program that the driver was given, or a payload. -/
inductive Topic (V : Type) where
  | nothing
  | given (program : V)
  | yielded (payload : V)

/-- What a driver may ask about at some moment. -/
structure Subject (V : Type) where
  topic : Topic V
  /-- The name that was read off a token, while its service is asked for. -/
  name : Option V

namespace Subject

/-- Whether a request is about what there is to be read, or about no value at all. Programs are
resumed and closed, which is not reading. -/
def Allows (s : Subject V) : Request V E → Prop
  | .inspect v .payload => s.topic = .yielded v
  | .inspect v .program => s.topic = .given v ∨ s.topic = .yielded v
  | .nameOf v => s.topic = .yielded v
  | .valueOf v => s.topic = .yielded v
  | .discard v => s.topic = .yielded v
  | .report (.passing v) => s.topic = .yielded v
  | .report (.nested _ v) => s.topic = .yielded v
  | .complain (.unresolvable v _) => s.topic = .yielded v
  | .complain (.refused v _) => s.topic = .given v ∨ s.topic = .yielded v
  | .find n => s.name = some n
  | .report (.resolved n) => s.name = some n
  | .report (.notProvided n) => s.name = some n
  | .complain (.notProvided n) => s.name = some n
  | .report (.finished ..) => True
  | .report (.stopRequested _) => False
  | .build .. => False
  | .barred | .due | .resume .. | .close .. | .handle _ | .handled => True

/-- What there is to be read after an exchange. What was found, and what was in a completion, does
not become the subject. -/
def after (s : Subject V) : Exchange V E → Subject V
  | ⟨.resume .., .yields payload⟩ => ⟨.yielded payload, none⟩
  | ⟨.resume .., _⟩ => ⟨.nothing, none⟩
  | ⟨.nameOf _, .ok name⟩ => ⟨.nothing, some name⟩
  | ⟨.valueOf _, _⟩ => ⟨.nothing, none⟩
  | _ => s

/-- What there is to be read after a history of the run of a program. -/
def inHistory (program : V) (h : History V E) : Subject V :=
  h.foldl after ⟨.given program, none⟩

/-- The monitor that allows nothing to be read but the subject. -/
def monitor : Monitor V E (Subject V) where
  allows := Allows
  moves s x s' := s' = s.after x
  turned := id
  turned_turned _ := rfl
  moves_turned _ h := h

variable {α : Type} {P : Subject V → α → Prop} {s : Subject V}

lemma watches (s : Subject V) (h : History V E) : monitor.Watches s h (h.foldl after s) := by
  induction h generalizing s with
  | nil => rfl
  | cons x h ih => exact ⟨_, rfl, ih (s.after x)⟩

lemma keeps_ask {q : Request V E} {next : q.Answer → Talk V E α} :
    (Talk.ask q next).Keeps monitor P s ↔
      s.Allows q ∧ ∀ a, (next a).Keeps monitor P (s.after ⟨q, a⟩) :=
  and_congr_right fun _ => ⟨fun h a => h a _ rfl, fun h a _ hs => hs ▸ h a⟩

@[simp]
lemma keeps_handling {e : E} {t : Talk V E α} :
    (Talk.handling e t).Keeps monitor P s ↔ t.Keeps monitor P s := by
  simp [Talk.handling, keeps_ask, Allows, after]

end Subject

section

variable [ValueLike V] [ErrorLike E] {m : Manner}

/-- How the subject stands with a verdict: a nested program that is to be run is the subject. -/
def Subject.Suits (s : Subject V) : Verdict V E → Prop
  | .enter _ q => s.topic = .yielded q
  | _ => True

/-- How the subject stands with a response: a payload is the subject. -/
def Subject.Meets (s : Subject V) (o : Level V × Response V E) : Prop :=
  ∀ payload, o.2 = .yields payload → s.topic = .yielded payload

section

variable {s : Subject V}

/-! ### Every part of a level reads the subject only -/

omit [ValueLike V] in
lemma lifted_close_reads (program : V) (stage : Lifting.Stage) :
    (Lifting.close program stage).Keeps Subject.monitor (fun _ (_ : Option E) => True) s := by
  cases stage with
  | waiting =>
    exact Subject.keeps_handling.2 (Subject.keeps_ask.2
      ⟨trivial, fun a => by cases a <;> exact trivial⟩)
  | _ => trivial

omit [ValueLike V] in
lemma close_reads (l : Level V) :
    l.close.Keeps Subject.monitor (fun _ (_ : Option E) => True) s := by
  have honce : ∀ (via : Protocol) (p : V) (s : Subject V),
      (Talk.ask (.close via p) .done).Keeps Subject.monitor (fun _ (_ : Option E) => True) s :=
    fun via p s => Subject.keeps_ask.2 ⟨trivial, fun a => trivial⟩
  obtain ⟨program, via | stage⟩ := l
  · exact honce via program s
  · refine (Talk.keeps_bind _).2 ((lifted_close_reads program stage).mono fun s b _ => ?_)
    cases b with
    | some e => trivial
    | none => exact honce .sync program s

omit [ValueLike V] in
lemma finish_reads (l : Level V) (r : Except E V) :
    (finish m l r).Keeps Subject.monitor Subject.Suits s := by
  refine (Talk.keeps_bind _).2 ?_
  cases r with
  | ok v => exact (close_reads l).mono fun s a _ => by cases a <;> exact trivial
  | error e =>
    exact Subject.keeps_handling.2 ((close_reads l).mono fun s a _ => by cases a <;> exact trivial)

omit [ValueLike V] in
/-- A record about the subject, or about no payload. -/
lemma reporting_reads {l : Level V} {r : Report V} {next : Talk V E (Verdict V E)}
    (hr : s.Allows (.report r : Request V E)) (hnext : next.Keeps Subject.monitor Subject.Suits s) :
    (reporting m l r next).Keeps Subject.monitor Subject.Suits s := by
  refine Subject.keeps_ask.2 ⟨hr, fun a => ?_⟩
  cases a with
  | some e => exact finish_reads l _
  | none => exact hnext

omit [ValueLike V] in
lemma unlessDue_reads {l : Level V} {answer : Talk V E (Verdict V E)}
    (hanswer : answer.Keeps Subject.monitor Subject.Suits s) :
    (unlessDue m l answer).Keeps Subject.monitor Subject.Suits s := by
  refine Subject.keeps_ask.2 ⟨trivial, fun a => ?_⟩
  cases a with
  | goOn => exact hanswer
  | stop how => trivial
  | failed e => exact finish_reads l _

omit [ValueLike V] [ErrorLike E] in
/-- A name that is looked up is the one that was read off the token, and stays that. -/
lemma lookup_reads {name : V} (hn : s.name = some name) :
    (lookup name).Keeps Subject.monitor (fun s (_ : Except E V) => s.name = some name) s := by
  refine Subject.keeps_ask.2 ⟨hn, fun a => ?_⟩
  cases a with
  | found v => exact hn
  | failed e => exact hn
  | absent said =>
    refine Subject.keeps_handling.2 (Subject.keeps_ask.2 ⟨hn, fun a => ?_⟩)
    cases a with
    | some e => exact hn
    | none => exact Subject.keeps_ask.2 ⟨hn, fun e => hn⟩

omit [ValueLike V] [ErrorLike E] in
lemma classify_reads {payload : V} (hs : s.topic = .yielded payload) :
    (classify payload).Keeps Subject.monitor
      (fun s (_ : Except E Kind) => s.topic = .yielded payload) s := by
  refine Subject.keeps_ask.2 ⟨hs, fun a => ?_⟩
  cases a with
  | error e => exact hs
  | ok traits =>
    cases hkind : traits.kind with
    | ok kind =>
      simp only [hkind]
      exact hs
    | error why =>
      cases why with
      | uncalled =>
        simp only [hkind]
        exact Subject.keeps_ask.2 ⟨hs, fun e => hs⟩
      | coroutine =>
        simp only [hkind]
        refine Subject.keeps_ask.2 ⟨hs, fun a => ?_⟩
        cases a with
        | some e => exact hs
        | none => exact Subject.keeps_ask.2 ⟨hs, fun e => hs⟩

omit [ValueLike V] in
lemma settle_reads {l : Level V} {payload : V} {kind : Kind} (hs : s.topic = .yielded payload) :
    (settle (E := E) m l payload kind).Keeps Subject.monitor Subject.Suits s := by
  cases kind with
  | completion =>
    refine reporting_reads trivial ((Talk.keeps_bind _).2 (Subject.keeps_ask.2 ⟨hs, fun a => ?_⟩))
    exact finish_reads l a
  | nested => exact unlessDue_reads (reporting_reads hs hs)
  | passthrough => exact unlessDue_reads (reporting_reads hs trivial)
  | service =>
    refine unlessDue_reads (Subject.keeps_ask.2 ⟨hs, fun a => ?_⟩)
    cases a with
    | error e => exact finish_reads l _
    | ok name =>
      refine (Talk.keeps_bind _).2 ((lookup_reads rfl).mono fun s a hn => ?_)
      cases a with
      | error e => exact finish_reads l _
      | ok v => exact reporting_reads hn trivial

omit [ErrorLike E] in
/-- A step of a lifting that yields nothing is about no payload. -/
lemma Subject.meets_quiet {program : V} {stage : Lifting.Stage} {step : Lifting.Step V E}
    (hstep : ∀ payload, step ≠ .yields payload) :
    s.Meets ((⟨program, .inr stage⟩, step.response) : Level V × Response V E) := by
  obtain payload | v | - | e := step
  · exact absurd rfl (hstep payload)
  all_goals exact nofun

/-- What the program beneath a lifting yields becomes the subject. -/
lemma Subject.meets_follow (program : V) (how : Resumption V E) (a : Signal V E) :
    (s.after ⟨.resume .sync program how, a⟩).Meets
      ((⟨program, .inr (Lifting.follow a).1⟩, (Lifting.follow a).2.response) :
        Level V × Response V E) := by
  cases a with
  | yields payload =>
    intro payload' hp
    cases hp
    rfl
  | ends v => exact meets_quiet nofun
  | raises e => exact meets_quiet nofun

lemma lifted_resume_reads (program : V) (stage : Lifting.Stage) (how : Resumption V E) :
    (Lifting.resume program stage how).Keeps Subject.monitor
      (fun s o => s.Meets ((⟨program, .inr o.1⟩, o.2.response) : Level V × Response V E)) s := by
  have hresumed : ∀ how : Resumption V E, (Talk.ask (.resume .sync program how) fun a =>
      .done (Lifting.follow a)).Keeps Subject.monitor
      (fun s o => s.Meets ((⟨program, .inr o.1⟩, o.2.response) : Level V × Response V E)) s :=
    fun how => Subject.keeps_ask.2 ⟨trivial, fun a => Subject.meets_follow program how a⟩
  cases stage with
  | unstarted =>
    cases how with
    | send v => exact hresumed _
    | throw e =>
      simp only [Lifting.resume]
      split <;> exact Subject.meets_quiet nofun
  | waiting =>
    cases how with
    | send v => exact hresumed _
    | throw e =>
      simp only [Lifting.resume, Lifting.throwOn]
      split
      · exact Subject.meets_quiet nofun
      · refine Subject.keeps_handling.2 (Subject.keeps_ask.2 ⟨trivial, fun a => ?_⟩)
        exact Subject.meets_quiet nofun
      · exact Subject.keeps_handling.2 (hresumed _)
  | delivering =>
    cases how with
    | send v => exact Subject.meets_quiet nofun
    | throw e =>
      simp only [Lifting.resume]
      split <;> exact Subject.meets_quiet nofun
  | finished => cases how <;> exact Subject.meets_quiet nofun

/-- What a resumed program yields becomes the subject. -/
lemma resume_reads (l : Level V) (how : Resumption V E) :
    (l.resume how).Keeps Subject.monitor Subject.Meets s := by
  obtain ⟨program, via | stage⟩ := l
  · refine Subject.keeps_ask.2 ⟨trivial, fun a => ?_⟩
    cases a with
    | yields payload =>
      intro payload' hp
      cases via <;> cases hp <;> rfl
    | ends v => cases via <;> exact nofun
    | raises e => cases via <;> exact nofun
  · exact (Talk.keeps_bind _).2 (lifted_resume_reads program stage how)

lemma cycle_reads (l : Level V) (how : Resumption V E) :
    (cycle m l how).Keeps Subject.monitor Subject.Suits s := by
  refine (Talk.keeps_bind _).2 ((resume_reads l how).mono ?_)
  rintro s ⟨l', payload | v | e⟩ hs
  · refine (Talk.keeps_bind _).2 ((classify_reads (hs payload rfl)).mono fun s a hs => ?_)
    cases a with
    | error e => exact finish_reads l' _
    | ok kind => exact settle_reads hs
  · exact reporting_reads trivial (finish_reads l' _)
  · exact finish_reads l' _

/-- A program that is taken up was given to the driver, or has just been yielded. -/
lemma takeUp_reads {q : V} (hs : s.topic = .given q ∨ s.topic = .yielded q) :
    (takeUp m q).Keeps Subject.monitor (Subject.Suits (E := E)) s := by
  refine Subject.keeps_ask.2 ⟨hs, fun a => ?_⟩
  cases a with
  | error e => trivial
  | ok traits =>
    cases hform : m.accept traits with
    | error why =>
      simp only [hform]
      exact Subject.keeps_ask.2 ⟨hs, fun e => trivial⟩
    | ok form =>
      simp only [hform]
      refine Subject.keeps_ask.2 ⟨trivial, fun a => ?_⟩
      cases a with
      | none => trivial
      | some e => exact finish_reads _ _

lemma proceed_reads (l : Level V) (r : Except E V) :
    (proceed m l r).Keeps Subject.monitor Subject.Suits s := by
  cases r with
  | ok v => exact cycle_reads l _
  | error e => exact finish_reads l (.error e)

lemma next_reads (s : Subject V) (waiting : List (Level V)) (v : Verdict V E) (hv : s.Suits v) :
    (v.next m waiting).Keeps Subject.monitor (fun s _ v => s.Suits v) (fun _ _ => True) s := by
  cases v with
  | again l how => exact cycle_reads l how
  | enter l q => exact takeUp_reads (.inr hv)
  | leave r =>
    cases waiting with
    | nil => trivial
    | cons l waiting => exact proceed_reads l r

end

/-- Whatever a run asks about a value, the value is the subject. -/
lemma Run.Goes.reads {q : V} {h h' : History V E} {x : Exchange V E} {run : Run V E}
    (hg : (Run.start m q).Goes m (h ++ x :: h') run) :
    (Subject.inHistory q h).Allows x.request := by
  have hstart : (Run.start m q : Run V E).Keeps Subject.monitor (fun s _ v => s.Suits v)
      (fun _ _ => True) ⟨.given q, none⟩ := takeUp_reads (.inl rfl)
  obtain hx | hx := hg.allows next_reads (Subject.watches _ h) (.inl hstart) <;> exact hx

end

/-! ### Chains -/

/-- What a program shows and how it is driven, and how it hands on a value: by yielding a
completion, which shows these traits, or by ending with it. -/
structure Link (V : Type) where
  program : V
  traits : Traits
  form : Form
  completion : Option (V × Traits)

/-- A program that has a value by itself or gets it from a service, and programs around it of which
each nests the next one and hands on what it gets. -/
inductive Chain (V : Type) where
  | made (l : Link V)
  | served (l : Link V) (token name : V) (traits : Traits)
  /-- The traits are those that the nested program shows as a payload. -/
  | nested (l : Link V) (traits : Traits) (inner : Chain V)

/-- A program is accepted, and what it hands a value on with is what it takes: only a synchronous
program can end with a value. -/
structure Link.Sound (m : Manner) (l : Link V) : Prop where
  accepted : m.accept l.traits = .ok l.form
  completes : ∀ c ∈ l.completion, c.2.kind = .ok .completion
  ends : l.completion = none → l.form.via = .sync

namespace Chain

/-- The outermost program of a chain. -/
def outermost : Chain V → Link V
  | .made l => l
  | .served l .. => l
  | .nested l .. => l

/-- The payloads of a chain are what they are meant to be. -/
def Sound (m : Manner) : Chain V → Prop
  | .made l => l.Sound m
  | .served l _ _ traits => l.Sound m ∧ traits.kind = .ok .service
  | .nested l traits inner => l.Sound m ∧ traits.kind = .ok .nested ∧ inner.Sound m

/-- The programs of a chain, the outermost one first. -/
def programs : Chain V → List V
  | .made l => [l.program]
  | .served l .. => [l.program]
  | .nested l _ inner => l.program :: inner.programs

/-- The programs that the value is delivered to, the innermost one first. -/
def receivers : Chain V → List V
  | .made _ => []
  | .served l .. => [l.program]
  | .nested l _ inner => inner.receivers ++ [l.program]

/-- The name that the value is found under, if it comes from a service. -/
def source : Chain V → Option V
  | .made _ => none
  | .served _ _ name _ => some name
  | .nested _ _ inner => inner.source

end Chain

section

variable [ValueLike V] [ErrorLike E] (m : Manner)

/-- The exchanges in which a level is closed and nothing comes out of that. -/
def Level.quietly (l : Level V) : History V E :=
  match l.drive with
  | .inl via => [⟨.close via l.program, none⟩]
  | .inr .waiting => [⟨.handle ErrorLike.exit, ()⟩, ⟨.close .sync l.program, none⟩, ⟨.handled, ()⟩,
      ⟨.close .sync l.program, none⟩]
  | .inr _ => [⟨.close .sync l.program, none⟩]

/-- A program is sent `u`, hands `v` on, and is closed. -/
def Link.handing (l : Link V) (u v : V) : History V E :=
  match l.completion with
  | none => ending m l.program l.form u v ++ (Level.ended l.program l.form).quietly
  | some (c, traits) =>
    completing m l.program l.form u c v traits ++ (Level.halted l.program l.form).quietly

/-- All the exchanges in which a chain hands a value on. -/
def Chain.history (v : V) : Chain V → History V E
  | .made l => accepting l.program l.traits ++ l.handing m ValueLike.nothing v
  | .served l token name traits => accepting l.program l.traits ++
      (serving l.program l.form ValueLike.nothing token name v traits ++ l.handing m v v)
  | .nested l traits inner => accepting l.program l.traits ++
      (nesting m l.program l.form ValueLike.nothing inner.outermost.program traits ++
        (inner.history v ++ l.handing m v v))

/-- The tree of a program that hands a value on without asking for anything. -/
def Link.tree (l : Link V) (v : V) : Unfolding V :=
  match l.completion with
  | none => .ends v
  | some (c, _) => .completes c v

/-- The tree of a chain. -/
def Chain.tree (v : V) : Chain V → Unfolding V
  | .made l => l.tree v
  | .served l token name _ => .service token name v (l.tree v)
  | .nested l _ inner => .nested inner.outermost.program (inner.tree v) (l.tree v)

variable {m}

omit [ValueLike V] in
lemma Level.quietly_comes (l : Level V) : l.close.Comes (l.quietly : History V E) none := by
  obtain ⟨program, via | stage⟩ := l
  · exact ⟨_, _, rfl, rfl, rfl⟩
  · cases stage <;> exact ⟨_, _, rfl, by simp [Talk.Comes, Talk.bind]⟩

omit [ValueLike V] [ErrorLike E] in
@[simp]
lemma Link.tree_value (l : Link V) (v : V) : (l.tree v).value = v := by
  unfold Link.tree
  split <;> rfl

omit [ValueLike V] [ErrorLike E] in
/-- The value of a chain is the one that is handed on. -/
@[simp]
lemma Chain.tree_value (c : Chain V) (v : V) : (c.tree v).value = v := by
  cases c <;> exact Link.tree_value _ v

/-- A program that hands a value on is at the end of its tree. -/
lemma Link.Sound.unfolds {l : Link V} (hl : l.Sound m) (u v : V) :
    Unfolds m l.program l.form u (l.tree v) (l.handing m u v : History V E) := by
  obtain ⟨program, traits, form, completion⟩ := l
  cases completion with
  | none =>
    have hvia : form.via.value v = v := by rw [show form.via = .sync from hl.ends rfl]; rfl
    have htree := Unfolds.ends (m := m) (p := program) (u := u) v
      (Level.quietly_comes (E := E) (.ended program form))
    rw [hvia] at htree
    exact htree
  | some c => exact .completes (hl.completes c rfl) (Level.quietly_comes _)

/-- A chain is evaluated to the value it hands on. -/
lemma Chain.evaluates {c : Chain V} (hc : c.Sound m) (v : V) :
    Evaluates m c.outermost.program (c.tree v) (c.history m v : History V E) := by
  induction c with
  | made l => exact ⟨l.traits, l.form, _, rfl, hc.accepted, hc.unfolds _ v⟩
  | served l token name traits =>
    exact ⟨l.traits, l.form, _, rfl, hc.1.accepted, .service hc.2 (hc.1.unfolds v v)⟩
  | nested l traits inner ih =>
    obtain ⟨hl, hkind, hinner⟩ := hc
    obtain ⟨traits', form', i, hi, hform, htree⟩ := ih hinner
    refine ⟨l.traits, l.form, _, rfl, hl.accepted, ?_⟩
    rw [hi]
    have hrest : Unfolds m l.program l.form (inner.tree v).value (l.tree v)
        (l.handing m v v : History V E) := by
      rw [inner.tree_value]
      exact hl.unfolds v v
    exact .nested hkind hform htree hrest

omit [ErrorLike E] in
lemma Link.tree_events (l : Link V) (u v : V) :
    (l.tree v).events l.program u = [(.resumed l.program (.send u) : Event V E)] := by
  unfold Link.tree
  split <;> rfl

omit [ErrorLike E] in
/-- A chain is gone through inwards without a value and outwards with it. -/
lemma Chain.tree_events (c : Chain V) (v : V) :
    (c.tree v).events c.outermost.program ValueLike.nothing =
      c.programs.map (fun p => .resumed p (.send ValueLike.nothing)) ++
        (c.source.toList.map (fun name => .found name v) ++
          c.receivers.map fun p => (.resumed p (.send v) : Event V E)) := by
  induction c with
  | made l => exact l.tree_events _ v
  | served l token name traits =>
    exact congrArg (_ :: _ :: ·) (l.tree_events v v)
  | nested l traits inner ih =>
    have hrest : (l.tree v).events l.program (inner.tree v).value =
        [(.resumed l.program (.send v) : Event V E)] := by
      rw [inner.tree_value]
      exact l.tree_events v v
    have hevents : ((Chain.nested l traits inner).tree v).events l.program ValueLike.nothing =
        (.resumed l.program (.send ValueLike.nothing) : Event V E) ::
          ((inner.tree v).events inner.outermost.program ValueLike.nothing ++
            (l.tree v).events l.program (inner.tree v).value) := rfl
    rw [show (Chain.nested l traits inner).outermost = l from rfl, hevents, ih, hrest]
    simp [Chain.programs, Chain.source, Chain.receivers]

end

/-! ### Delivered values -/

/-- **Delivered values are never interpreted.**

* Whatever a run of any program asks about a value, it asks about what was given to the driver or
  was yielded last: `Subject.Allows` lists the questions, and neither an implementation that was found
  nor a value in a completion becomes the subject.
* A chain of programs, each of which hands on what it gets, is run to the very value that it hands
  on, whatever this is: in the one history in which its programs do so, every program is at first
  resumed without a value and, unless it has the value by itself, once more with that value. -/
theorem delivered_values_are_not_interpreted [ValueLike V] [ErrorLike E] (m : Manner) :
    (∀ (q : V) (h h' : History V E) (x : Exchange V E) (run : Run V E),
      (Run.start m q).Goes m (h ++ x :: h') run → (Subject.inHistory q h).Allows x.request) ∧
    ∀ (c : Chain V) (v : V), c.Sound m →
      (History.events (c.history m v : History V E) =
        c.programs.map (fun p => .resumed p (.send ValueLike.nothing)) ++
          (c.source.toList.map (fun name => .found name v) ++
            c.receivers.map fun p => .resumed p (.send v))) ∧
      ∀ (σ : Type) (host : Host V E σ) (s s' : σ), host.Answers s (c.history m v) s' →
        (∃ fuel, (Run.start m c.outermost.program).conduct m host fuel s = (some (.ok v), s')) ∧
        ∀ h r t, (Run.start m c.outermost.program).Goes m h (.over r) → host.Answers s h t →
          r = .ok v ∧ h = c.history m v ∧ t = s' := by
  refine ⟨fun q h h' x run hg => hg.reads, fun c v hc => ?_⟩
  have htree := Chain.evaluates (E := E) hc v
  have hgoes : (Run.start m c.outermost.program).Goes m (c.history m v) (.over (.ok v)) :=
    (evaluates_iff.1 ⟨_, c.tree_value v, htree⟩).2
  constructor
  · obtain ⟨traits, form, i, hi, -, hunfolds⟩ := htree
    rw [hi, History.events_append, hunfolds.events, ← c.tree_events v]
    rfl
  · intro σ host s s' hs
    exact ⟨Run.conduct_of_goes hgoes hs, fun h r t hg ht => hgoes.unique hs hg ht⟩

/-! ### A completion that is handed on -/

section

open Script

/-- Surroundings in which the program `0` yields the program `1`, which yields the token `2`. What
is found is a completion, and both programs end with what they are sent. -/
def handingOn : Host Value Fault Unit := fun q => pure <|
  match q with
  | .inspect (.object 2) .payload => .ok ⟨true, false, false, false, false, false⟩
  | .inspect (.object 3) _ => .ok ⟨false, false, false, true, false, false⟩
  | .inspect _ _ => .ok synchronous
  | .resume _ (.object 0) (.send .none) => .yields (.object 1)
  | .resume _ (.object 1) (.send .none) => .yields (.object 2)
  | .resume _ _ (.send v) => .ends v
  | .resume _ _ (.throw e) => .raises e
  | .find _ => .found (.object 3)
  | .nameOf token => .ok token
  | .valueOf completion => .ok completion
  | .due => .goOn
  | .build .. => .ok .none
  | .complain _ => .spent
  | .handle _ | .handled => ()
  | .barred | .close .. | .report _ | .discard _ => none

/-- The chain of these two programs, driven cooperatively. -/
def handingChain : Chain Value :=
  .nested ⟨.object 0, synchronous, .lifted, none⟩ synchronous
    (.served ⟨.object 1, synchronous, .lifted, none⟩ (.object 2) (.object 2)
      ⟨true, false, false, false, false, false⟩)

/-- The case of a completion that is found for a token: it is the result of the outer program, and
it was not opened. -/
theorem found_completion_is_handed_on :
    (∃ fuel, (Run.start .cooperative (.object 0)).conduct .cooperative handingOn fuel () =
      (some (.ok (.object 3)), ())) ∧
    History.events (handingChain.history (E := Fault) .cooperative (.object 3)) =
      [.resumed (.object 0) (.send .none), .resumed (.object 1) (.send .none),
        .found (.object 2) (.object 3), .resumed (.object 1) (.send (.object 3)),
        .resumed (.object 0) (.send (.object 3))] := by
  have hlink : ∀ p : Value, Link.Sound .cooperative ⟨p, synchronous, .lifted, none⟩ :=
    fun p => ⟨rfl, nofun, fun _ => rfl⟩
  have hsound : handingChain.Sound .cooperative := ⟨hlink _, rfl, hlink _, rfl⟩
  have hanswers : handingOn.Answers () (handingChain.history .cooperative (.object 3)) () :=
    ⟨rfl, rfl, rfl, rfl, rfl, rfl, rfl, rfl, rfl, rfl, rfl, rfl, rfl, rfl, rfl, rfl, rfl, rfl, rfl,
      rfl, rfl⟩
  obtain ⟨hevents, hruns⟩ := (delivered_values_are_not_interpreted (E := Fault) .cooperative).2
    handingChain (.object 3) hsound
  exact ⟨(hruns Unit handingOn () () hanswers).1, hevents⟩

end

end Provision
