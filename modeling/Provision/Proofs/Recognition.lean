import Provision.Proofs.Evaluation
import Provision.Script.Host

/-!
Recognition: program functions that are yielded without being called.

Arguments may be supplied to a function that makes programs, and it may be declared to make them,
any number of times and in any order. `Callable.wrapped` is what comes of it, and `Veiled` says in
which order the layers hide the function: arguments are supplied to a declared function, and the
result is not declared again.

* `uncalled_wrapped_iff`: a callable is recognised exactly if it is not veiled;
* `Seen.uncalled_iff`: so are the objects of scripts that are made in this way;
* `respond_delivers`: reading the completion of a lifting comes to what it delivers;
* `Run.Goes.yielded`: whatever a program yields is read at once, in a run of either manner and at
  any depth;
* `uncalled_functions_are_refused`: yielding a callable that is not veiled fails, and a veiled one is
  handed back to the program.
-/

namespace Provision

/-! ### Layers around a function -/

/-- What can be put around a function. -/
inductive Layer where
  /-- Some arguments are supplied beforehand. -/
  | supplied
  /-- It is declared to make programs. -/
  | declared
  deriving DecidableEq

/-- A function that makes programs, with layers around it, the outermost one first. -/
def Callable.wrapped : List Layer → Callable
  | [] => .function .program false
  | .supplied :: layers => .supplied (wrapped layers) false
  | .declared :: layers => .declared (wrapped layers) true

/-- Arguments are supplied to a declared function, and the result is not declared again. -/
def Veiled (layers : List Layer) : Prop :=
  ∃ n rest, layers = List.replicate (n + 1) .supplied ++ .declared :: rest

/-- Under its outermost layers of arguments there is a declaration, if there is any. -/
lemma declared_mem_iff {layers : List Layer} : .declared ∈ layers ↔
    ∃ n rest, layers = List.replicate n .supplied ++ .declared :: rest := by
  constructor
  · intro h
    induction layers with
    | nil => cases h
    | cons layer layers ih =>
      cases layer with
      | declared => exact ⟨0, layers, rfl⟩
      | supplied =>
        obtain ⟨n, rest, rfl⟩ := ih (by simpa using h)
        exact ⟨n + 1, rest, rfl⟩
  · rintro ⟨n, rest, rfl⟩
    simp

lemma veiled_supplied_iff {layers : List Layer} :
    Veiled (.supplied :: layers) ↔ .declared ∈ layers := by
  rw [declared_mem_iff]
  simp [Veiled, List.replicate_succ]

lemma not_veiled_declared (layers : List Layer) : ¬Veiled (.declared :: layers) := by
  simp [Veiled, List.replicate_succ]

/-- The way a function is written is seen through arguments, but not through a declaration. -/
lemma writtenAsProgram_wrapped_iff (layers : List Layer) :
    (Callable.wrapped layers).writtenAsProgram = true ↔ .declared ∉ layers := by
  induction layers with
  | nil => simp [Callable.wrapped, Callable.writtenAsProgram]
  | cons layer layers ih =>
    cases layer <;> simp [Callable.wrapped, Callable.writtenAsProgram, ih]

/-- A callable is recognised exactly if it is not veiled. -/
lemma uncalled_wrapped_iff (layers : List Layer) :
    (Callable.wrapped layers).uncalled = true ↔ ¬Veiled layers := by
  match layers with
  | [] => simp [Callable.wrapped, Callable.uncalled, Callable.writtenAsProgram, Veiled]
  | .declared :: layers =>
    simp [Callable.wrapped, Callable.uncalled, Callable.isMarked, not_veiled_declared]
  | .supplied :: layers =>
    rw [veiled_supplied_iff, ← writtenAsProgram_wrapped_iff]
    simp [Callable.wrapped, Callable.uncalled, Callable.isMarked, Callable.writtenAsProgram]

/-- What a callable shows to a driver: it is nothing else than a callable. -/
def Callable.traits (c : Callable) : Traits := ⟨false, false, false, false, false, c.uncalled⟩

lemma kind_of_veiled {layers : List Layer} (hv : Veiled layers) :
    (Callable.wrapped layers).traits.kind = .ok .passthrough := by
  have hu : (Callable.wrapped layers).uncalled = false :=
    Bool.eq_false_iff.2 fun hu => (uncalled_wrapped_iff layers).1 hu hv
  simp [Callable.traits, Traits.kind, Traits.isProgram, Traits.mistake?, hu]

lemma kind_of_not_veiled {layers : List Layer} (hv : ¬Veiled layers) :
    (Callable.wrapped layers).traits.kind = .error .uncalled := by
  simp [Callable.traits, Traits.kind, Traits.isProgram, Traits.mistake?,
    (uncalled_wrapped_iff layers).2 hv]

/-! ### Callables among the objects of scripts -/

section

open Script

/-- An object of a script that was made of a function by supplying arguments and declaring. Arguments
that are supplied to an object with arguments are put with these. -/
inductive Seen (w : World) : Value → List Layer → Prop
  | function {v : Value} {code : Function} {defaults : List (String × Value)} {naming : Naming} :
    w.object? v = some (.function code defaults naming) →
    code.style = .generator ∨ code.style = .asyncGenerator →
    (w.ownOf? v callable?.markName == some (.bool true)) = false → Seen w v []
  | supplied {v f : Value} {layers : List Layer} {given : List Value} {named : Named} :
    w.object? v = some (.supplied f given named) →
    (w.ownOf? v callable?.markName == some (.bool true)) = false →
    Seen w f layers → Seen w v (.supplied :: layers)
  | again {v : Value} {layers : List Layer} :
    Seen w v (.supplied :: layers) → Seen w v (.supplied :: .supplied :: layers)
  | declared {v f : Value} {layers : List Layer} {naming : Naming} :
    w.object? v = some (.declared f naming) →
    (w.ownOf? v callable?.markName == some (.bool true)) = true →
    Seen w f layers → Seen w v (.declared :: layers)

/-- What a script's object is looked at as is recognised exactly if the callable is. -/
lemma Seen.callable {w : World} {v : Value} {layers : List Layer} (hs : Seen w v layers)
    {depth : ℕ} (hd : layers.length < depth) : ∃ c, callable? w depth v = some c ∧
      c.writtenAsProgram = (Callable.wrapped layers).writtenAsProgram ∧
      c.isMarked = (Callable.wrapped layers).isMarked := by
  induction hs generalizing depth with
  | function hv hstyle hmark =>
    obtain ⟨depth, rfl⟩ := Nat.exists_eq_succ_of_ne_zero (Nat.ne_of_gt hd)
    refine ⟨.function .program false, ?_, rfl, rfl⟩
    obtain hstyle | hstyle := hstyle <;> simp [callable?, hv, hstyle, hmark]
  | supplied hv hmark _ ih =>
    obtain ⟨depth, rfl⟩ := Nat.exists_eq_succ_of_ne_zero (Nat.ne_of_gt (Nat.zero_lt_of_lt hd))
    obtain ⟨c, hc, hwritten, -⟩ := ih (Nat.lt_of_succ_lt_succ hd)
    exact ⟨.supplied c false, by simp [callable?, hv, hmark, hc], hwritten, rfl⟩
  | again _ ih => exact ih (Nat.lt_of_succ_lt hd)
  | declared hv hmark _ ih =>
    obtain ⟨depth, rfl⟩ := Nat.exists_eq_succ_of_ne_zero (Nat.ne_of_gt (Nat.zero_lt_of_lt hd))
    obtain ⟨c, hc, -, -⟩ := ih (Nat.lt_of_succ_lt_succ hd)
    exact ⟨.declared c true, by simp [callable?, hv, hmark, hc], rfl, rfl⟩

/-- A script recognises such an object exactly if it is not veiled. -/
lemma Seen.uncalled_iff {w : World} {v : Value} {layers : List Layer} (hs : Seen w v layers)
    {depth : ℕ} (hd : layers.length < depth) :
    (callable? w depth v).any Callable.uncalled = true ↔ ¬Veiled layers := by
  obtain ⟨c, hc, hwritten, hmarked⟩ := hs.callable hd
  rw [← uncalled_wrapped_iff, hc, Option.any_some, Callable.uncalled, Callable.uncalled, hwritten,
    hmarked]

end

/-! ### Talks in which no program is resumed -/

section

variable {V E α β : Type}

/-- No program is resumed in a talk. -/
def Talk.Rests : Talk V E α → Prop
  | .done _ => True
  | .ask q next => (∀ via p how, q ≠ .resume via p how) ∧ ∀ a, (next a).Rests

lemma Talk.Rests.bind {t : Talk V E α} {f : α → Talk V E β} (ht : t.Rests)
    (hf : ∀ a, (f a).Rests) : (t.bind f).Rests := by
  induction t with
  | done a => exact hf a
  | ask q next ih => exact ⟨ht.1, fun a => ih a (ht.2 a)⟩

lemma Talk.Rests.handling {t : Talk V E α} (ht : t.Rests) (e : E) : (Talk.handling e t).Rests :=
  ⟨nofun, fun _ => ht.bind fun _ => ⟨nofun, fun _ => trivial⟩⟩

lemma lookup_rests (name : V) : (lookup (E := E) name).Rests := by
  refine ⟨nofun, fun a => ?_⟩
  cases a with
  | found v => trivial
  | failed e => trivial
  | absent said =>
    refine Talk.Rests.handling (t := .ask _ _) ⟨nofun, fun a => ?_⟩ said
    cases a with
    | some e => trivial
    | none => exact ⟨nofun, fun _ => trivial⟩

lemma classify_rests (payload : V) : (classify (E := E) payload).Rests := by
  refine ⟨nofun, fun a => ?_⟩
  cases a with
  | error e => trivial
  | ok traits =>
    cases hkind : traits.kind with
    | ok kind =>
      simp only [hkind]
      trivial
    | error why =>
      cases why with
      | uncalled =>
        simp only [hkind]
        exact ⟨nofun, fun _ => trivial⟩
      | coroutine =>
        simp only [hkind]
        refine ⟨nofun, fun a => ?_⟩
        cases a with
        | some e => trivial
        | none => exact ⟨nofun, fun _ => trivial⟩

variable [ErrorLike E] {m : Manner}

lemma Level.close_rests (l : Level V) : (l.close (E := E)).Rests := by
  have honce : ∀ (via : Protocol) (p : V), (Talk.ask (.close via p) .done : Talk V E _).Rests :=
    fun via p => ⟨nofun, fun _ => trivial⟩
  obtain ⟨program, via | stage⟩ := l
  · exact honce via program
  · have hlifted : (Lifting.close (E := E) program stage).Rests := by
      cases stage with
      | waiting =>
        exact Talk.Rests.handling (t := .ask _ _) ⟨nofun, fun a => by cases a <;> trivial⟩
          ErrorLike.exit
      | _ => trivial
    refine hlifted.bind fun a => ?_
    cases a with
    | some e => trivial
    | none => exact honce .sync program

lemma finish_rests (l : Level V) (r : Except E V) : (finish m l r).Rests := by
  refine Talk.Rests.bind ?_ fun a => by cases a <;> trivial
  cases r with
  | ok v => exact l.close_rests
  | error e => exact l.close_rests.handling e

lemma reporting_rests (l : Level V) (r : Report V) {next : Talk V E (Verdict V E)}
    (hnext : next.Rests) : (reporting m l r next).Rests := by
  refine ⟨nofun, fun a => ?_⟩
  cases a with
  | some e => exact finish_rests l _
  | none => exact hnext

lemma deliver_rests (l : Level V) {value : Talk V E (Except E V)} (hvalue : value.Rests) :
    (deliver m l value).Rests :=
  reporting_rests l _ (hvalue.bind (finish_rests l))

lemma unlessDue_rests (l : Level V) {answer : Talk V E (Verdict V E)} (hanswer : answer.Rests) :
    (unlessDue m l answer).Rests := by
  refine ⟨nofun, fun a => ?_⟩
  cases a with
  | goOn => exact hanswer
  | stop how => trivial
  | failed e => exact finish_rests l _

lemma settle_rests (l : Level V) (payload : V) (kind : Kind) :
    (settle (E := E) m l payload kind).Rests := by
  cases kind with
  | completion => exact deliver_rests l ⟨nofun, fun _ => trivial⟩
  | nested => exact unlessDue_rests l (reporting_rests l _ trivial)
  | passthrough => exact unlessDue_rests l (reporting_rests l _ trivial)
  | service =>
    refine unlessDue_rests l ⟨nofun, fun a => ?_⟩
    cases a with
    | error e => exact finish_rests l _
    | ok name =>
      refine (lookup_rests name).bind fun a => ?_
      cases a with
      | error e => exact finish_rests l _
      | ok v => exact reporting_rests l _ trivial

variable [ValueLike V]

lemma takeUp_rests (q : V) : (takeUp (E := E) m q).Rests := by
  refine ⟨nofun, fun a => ?_⟩
  cases a with
  | error e => trivial
  | ok traits =>
    cases hform : m.accept traits with
    | error why =>
      simp only [hform]
      exact ⟨nofun, fun _ => trivial⟩
    | ok form =>
      simp only [hform]
      refine ⟨nofun, fun a => ?_⟩
      cases a with
      | none => trivial
      | some e => exact finish_rests _ _

/-! ### What is yielded is read at once -/

/-- What follows on a response in a cycle. -/
def respond (m : Manner) : Level V × Response V E → Talk V E (Verdict V E)
  | (l, .raises e) => finish m l (.error e)
  | (l, .ends value) => deliver m l (.done (.ok value))
  | (l, .yields payload) => (classify payload).bind fun
    | .error e => finish m l (.error e)
    | .ok kind => settle m l payload kind

omit [ValueLike V] in
lemma respond_rests (o : Level V × Response V E) : (respond m o).Rests := by
  obtain ⟨l, payload | value | e⟩ := o
  · refine (classify_rests payload).bind fun a => ?_
    cases a with
    | error e => exact finish_rests l _
    | ok kind => exact settle_rests l payload kind
  · have hvalue : (Talk.done (.ok value) : Talk V E (Except E V)).Rests := trivial
    exact deliver_rests l hvalue
  · exact finish_rests (m := m) l (.error e)

/-- A lifted program delivers a value at its end. With a host that shows some value as an exact
completion with this one, it comes to the same that this completion is read as a payload. -/
theorem respond_delivers {μ : Type → Type} [Monad μ] [LawfulMonad μ]
    {host : (r : Request V E) → μ r.Answer} {c v : V} {traits : Traits} (l : Level V)
    (hinspect : host (.inspect c .payload) = pure (.ok traits))
    (hkind : traits.kind = .ok .completion) (hvalue : host (.valueOf c) = pure (.ok v)) :
    (respond m (l, (Lifting.Step.delivers v).response)).answeredBy host =
      (respond m (l, .yields c)).answeredBy host := by
  have hread : (classify c).answeredBy host = pure (.ok .completion) := by
    simp [classify, Talk.answeredBy, hinspect, hkind]
  have htaken : ((Talk.request (.valueOf c)).bind (finish m l)).answeredBy host =
      (finish m l (.ok v)).answeredBy host := by
    simp [Talk.request, Talk.answeredBy, hvalue]
  rw [respond, Talk.answeredBy_bind, hread, pure_bind]
  refine bind_congr fun said => ?_
  cases said with
  | none => exact htaken.symm
  | some e => rfl

/-- If a request resumes a program, then what that yields is read at once. -/
def Considered (m : Manner) :
    (q : Request V E) → (q.Answer → Talk V E (Verdict V E)) → Prop
  | .resume via p _, next => ∃ form : Form, form.via = via ∧ ∀ v,
      next (.yields v) = afterSignal m p form (.yields v) ∨
      next (.yields v) = .ask .handled fun _ => afterSignal m p form (.yields v)
  | _, _ => True

/-- Whatever is yielded in a talk is read at once. -/
def Talk.Considers (m : Manner) : Talk V E (Verdict V E) → Prop
  | .done _ => True
  | .ask q next => Considered m q next ∧ ∀ a, (next a).Considers m

lemma Talk.Rests.considers {t : Talk V E (Verdict V E)} (ht : t.Rests) : t.Considers m := by
  induction t with
  | done v => trivial
  | ask q next ih =>
    refine ⟨?_, fun a => ih a (ht.2 a)⟩
    cases q with
    | resume via p how => exact absurd rfl (ht.1 via p how)
    | _ => trivial

lemma respond_considers (o : Level V × Response V E) : (respond m o).Considers m :=
  (respond_rests o).considers

/-- A step of a lifted program that asks nothing, and what follows on that. -/
lemma step_considers (p : V) (s : Lifting.Stage × Lifting.Step V E) :
    ((Talk.done s).bind fun s => respond m (⟨p, .inr s.1⟩, s.2.response)).Considers m :=
  respond_considers _

/-- Throwing an error into a lifted program, and what follows on that. -/
lemma throwOn_considers (p : V) (e : E) : ((Lifting.throwOn p e).bind fun s =>
    respond m (⟨p, .inr s.1⟩, s.2.response)).Considers m := by
  unfold Lifting.throwOn
  split
  · exact step_considers p _
  · refine Talk.Rests.considers (Talk.Rests.bind ?_ fun _ => respond_rests _)
    exact Talk.Rests.handling (t := .ask _ fun _ => .done _) ⟨nofun, fun _ => trivial⟩ e
  · refine ⟨trivial, fun _ => ⟨⟨.lifted, rfl, fun v => .inr rfl⟩, fun a => ?_⟩⟩
    exact ⟨trivial, fun _ => respond_considers _⟩

/-- Resuming a lifted program, and what follows on that. -/
lemma lifted_resume_considers (p : V) (stage : Lifting.Stage) (how : Resumption V E) :
    ((Lifting.resume p stage how).bind fun s =>
      respond m (⟨p, .inr s.1⟩, s.2.response)).Considers m := by
  have hresumed : ∀ how : Resumption V E, ((Talk.ask (.resume .sync p how) fun a =>
      .done (Lifting.follow a)).bind fun s =>
        respond m (⟨p, .inr s.1⟩, s.2.response)).Considers m :=
    fun how => ⟨⟨.lifted, rfl, fun v => .inl rfl⟩, fun a => step_considers p (Lifting.follow a)⟩
  cases how with
  | send v =>
    cases stage with
    | unstarted => exact hresumed _
    | waiting => exact hresumed _
    | delivering | finished => exact step_considers p _
  | throw e =>
    cases stage with
    | waiting => exact throwOn_considers p e
    | finished => exact step_considers p _
    | unstarted | delivering =>
      simp only [Lifting.resume]
      split <;> exact step_considers p _

lemma cycle_considers (l : Level V) (how : Resumption V E) : (cycle m l how).Considers m := by
  have hcycle : cycle m l how = (l.resume how).bind (respond m) := rfl
  rw [hcycle]
  obtain ⟨p, via | stage⟩ := l
  · refine ⟨⟨.direct via, rfl, fun v => .inl ?_⟩, fun a => respond_considers _⟩
    cases via <;> rfl
  · unfold Level.resume
    rw [Talk.bind_assoc]
    exact lifted_resume_considers p stage how

/-- Whatever is yielded in the talk of a run is read at once. -/
def Run.Considers (m : Manner) : Run V E → Prop
  | .active _ t => t.Considers m
  | .over _ => True

lemma next_considers (waiting : List (Level V)) (v : Verdict V E) :
    (v.next m waiting).Considers m := by
  cases v with
  | again l how => exact cycle_considers l how
  | enter l q => exact (takeUp_rests q).considers
  | leave r =>
    cases waiting with
    | nil => trivial
    | cons l waiting =>
      cases r with
      | ok v => exact cycle_considers l (.send v)
      | error e => exact Talk.Rests.considers (finish_rests (m := m) l (.error e))

lemma Run.Goes.considers {r r' : Run V E} {h : History V E} (hg : r.Goes m h r')
    (hr : r.Considers m) : r'.Considers m := by
  induction hg with
  | here r => exact hr
  | decided _ ih => exact ih (next_considers _ _)
  | answered a _ ih => exact ih (hr.2 a)

/-- Whatever a program yields is read at once; an error that was thrown into it is not being handled
any more then. -/
lemma Run.Goes.yielded {q p v : V} {via : Protocol} {how : Resumption V E}
    {before after : History V E} {run : Run V E}
    (hg : (Run.start m q).Goes m (before ++ ⟨.resume via p how, .yields v⟩ :: after) run) :
    ∃ waiting next form, form.via = via ∧
      (Run.start m q).Goes m before (.active waiting (.ask (.resume via p how) next)) ∧
      (Run.active waiting (next (.yields v))).Goes m after run ∧
      (next (.yields v) = afterSignal m p form (.yields v) ∨
        next (.yields v) = .ask .handled fun _ => afterSignal m p form (.yields v)) := by
  obtain ⟨r, hbefore, hafter⟩ := hg.split
  obtain ⟨waiting, next, hask, hnext⟩ := hafter.cons_inv
  have hat := hbefore.append hask
  rw [List.append_nil] at hat
  obtain ⟨⟨form, hform, hv⟩, -⟩ := hat.considers (Talk.Rests.considers (takeUp_rests q))
  exact ⟨waiting, next, form, hform, hat, hnext, hv v⟩

/-! ### What becomes of a refused payload -/

/-- With a host, a run comes to an error from wherever the host stands. -/
def Run.Fails {σ : Type} (m : Manner) (host : Host V E σ) (run : Run V E) : Prop :=
  ∀ s, ∃ h s' e, host.Answers s h s' ∧ run.Goes m h (.over (.error e))

lemma Run.fails_ask {σ : Type} {host : Host V E σ} {waiting : List (Level V)} {q : Request V E}
    {next : q.Answer → Talk V E (Verdict V E)}
    (hf : ∀ s, (Run.active waiting (next (host q s).1)).Fails m host) :
    (Run.active waiting (.ask q next)).Fails m host := by
  intro s
  obtain ⟨h, s', e, hs, hg⟩ := hf s (host q s).2
  exact ⟨⟨q, _⟩ :: h, s', e, ⟨rfl, hs⟩, .answered _ hg⟩

/-- What has become of a run since a program `p` of it has yielded `v`, which shows `t`, while these
levels waited: `v` is refused. -/
structure Run.Rejects (m : Manner) (waiting : List (Level V)) (p v : V) (t : Traits)
    (after : History V E) (run : Run V E) : Prop where
  /-- The payload is looked at, and everything else is what leaving takes: `p` is not resumed. -/
  leaves : ∀ x ∈ after, x.request = .inspect v .payload ∨ x.request.Leaves
  /-- A run that is over has complained about the payload, has closed `p` and those who waited, and
  has come to the error of that complaint, unless something came out of closing. -/
  ended : ∀ result, run = .over result → ∃ quiet e rest e',
    after = quiet ++ ⟨.inspect v .payload, .ok t⟩ ::
      ⟨.complain (.unresolvable v .uncalled), e⟩ :: rest ∧
    (∀ x ∈ quiet, x.request = .handled) ∧
    ClosedInTurn (p :: waiting.map (·.program)) (History.closings rest) ∧
    result = .error e' ∧
    ((∀ x ∈ rest, x.calm = true) → ErrorLike.nature e ≠ .ended → e' = e)
  /-- The run comes to an error with any host for which the payload shows the same. -/
  fails : ∀ {σ : Type} (host : Host V E σ), (∀ s, (host (.inspect v .payload) s).1 = .ok t) →
    run.Fails m host

variable {waiting : List (Level V)} {p v : V} {t : Traits} {after : History V E} {run : Run V E}
  {form : Form}

omit [ValueLike V] in
/-- Once a run leaves a level with an error, it unwinds. -/
lemma finish_unwinds [LawfulErrorLike E] (waiting : List (Level V)) (l : Level V) (e : E) :
    (Run.active waiting (finish m l (.error e))).Keeps (Fate.monitor m)
      (Fate.Unwinds m (l.program :: waiting.map (·.program)))
      (Fate.Unwound (l.program :: waiting.map (·.program))) (.failed [] [] (some (m.cross e))) := by
  refine (finish_keeps_failed l e).mono ?_
  rintro _ _ ⟨cs, error', e₁, hcs, rfl, rfl, he⟩
  refine ⟨[], cs, error', e₁, [l.program], rfl, rfl, rfl, hcs, fun e' h => ?_⟩
  obtain ⟨hmem, rfl⟩ := he e' h
  obtain rfl := Option.some.inj hmem
  exact ⟨rfl, m.cross_cross e⟩

/-- Whoever waits for a level that is left with an error is left with it as well. -/
lemma Run.Goes.left_with [LawfulErrorLike E] {l : Level V} {e : E}
    (hg : (Run.active waiting (finish m l (.error e))).Goes m after run) :
    (∀ x ∈ after, x.request.Leaves) ∧
    (∀ result, run = .over result →
      ClosedInTurn (l.program :: waiting.map (·.program)) (History.closings after) ∧
      ∃ e', result = .error e' ∧ ((∀ x ∈ after, x.calm = true) → e' = m.cross e)) ∧
    ∀ {σ : Type} (host : Host V E σ), run.Fails m host := by
  have hkeeps := finish_unwinds (m := m) waiting l e
  obtain ⟨hleaves, error, -, hrun⟩ := hg.unwinds hkeeps
  refine ⟨hleaves, ?_, fun host s => ?_⟩
  · rintro result rfl
    obtain ⟨e', rfl, hclosed, he⟩ := hg.unwound hkeeps
    exact ⟨hclosed, e', rfl, fun hx => he hx _ rfl⟩
  · obtain ⟨h, s', e', hs, hover, -⟩ := Run.unwinds_with host hrun s
    exact ⟨h, s', e', hs, hover⟩

/-- Reading a function that was not called. -/
lemma read_uncalled (m : Manner) (p v : V) (form : Form)
    (ht : t.kind = .error .uncalled) : ∃ next,
    (afterSignal m p form (.yields v) : Talk V E _) = .ask (.inspect v .payload) next ∧
    next (.ok t) = .ask (.complain (.unresolvable v .uncalled)) fun e =>
      finish m (.halted p form) (.error e) :=
  ⟨_, rfl, by simp only [ht]; rfl⟩

/-- A function that was not called is refused when it is read. -/
lemma Run.Goes.rejects [LawfulErrorLike E] (ht : t.kind = .error .uncalled)
    (hlook : ∀ a, ⟨.inspect v .payload, a⟩ ∈ after → a = .ok t)
    (hg : (Run.active waiting (afterSignal m p form (.yields v))).Goes m after run) :
    Run.Rejects m waiting p v t after run := by
  have hp : (Level.halted p form).program = p := (Level.halted_form p form).2
  obtain ⟨next, hread, hnext⟩ := read_uncalled (E := E) m p v form ht
  have hleft : ∀ {σ : Type} (host : Host V E σ) (e : E),
      (Run.active waiting (finish m (.halted p form) (.error e))).Fails m host :=
    fun host e => (Run.Goes.left_with (.here _)).2.2 host
  rw [hread] at hg
  cases hg with
  | here =>
    refine ⟨nofun, nofun, fun host hhost => Run.fails_ask fun s => ?_⟩
    rw [hhost, hnext]
    exact Run.fails_ask fun s => hleft host _
  | answered a hg =>
    obtain rfl := hlook a List.mem_cons_self
    rw [hnext] at hg
    cases hg with
    | here =>
      refine ⟨?_, nofun, fun host _ => Run.fails_ask fun s => hleft host _⟩
      exact fun x hx => .inl (by rw [List.mem_singleton.1 hx])
    | @answered _ _ _ rest _ e hg =>
      obtain ⟨hleaves, hover, hfails⟩ := hg.left_with
      refine ⟨?_, fun result hr => ?_, fun host _ => hfails host⟩
      · rintro x (_ | ⟨_, _ | ⟨_, hx⟩⟩)
        · exact .inl rfl
        · exact .inr trivial
        · exact .inr (hleaves x hx)
      · obtain ⟨hclosed, e', rfl, he'⟩ := hover result hr
        rw [hp] at hclosed
        refine ⟨[], e, rest, e', rfl, nofun, hclosed, rfl, fun hcalm he => ?_⟩
        rw [he' hcalm, m.cross_of_not_ended he]

/-- It makes no difference if an error ceases to be handled first. -/
lemma Run.Rejects.handled {next : Unit → Talk V E (Verdict V E)}
    (hread : ∀ after run, (∀ a, ⟨.inspect v .payload, a⟩ ∈ after → a = .ok t) →
      (Run.active waiting (next ())).Goes m after run → Run.Rejects m waiting p v t after run)
    (hlook : ∀ a, ⟨.inspect v .payload, a⟩ ∈ after → a = .ok t)
    (hg : (Run.active waiting (.ask .handled next)).Goes m after run) :
    Run.Rejects m waiting p v t after run := by
  cases hg with
  | here =>
    have hr := hread [] _ nofun (.here _)
    exact ⟨nofun, nofun, fun host hhost => Run.fails_ask fun s => hr.fails host hhost⟩
  | answered a hg =>
    have hr := hread _ run (fun a ha => hlook a (List.mem_cons_of_mem _ ha)) hg
    refine ⟨?_, fun result h => ?_, hr.fails⟩
    · rintro x (_ | ⟨_, hx⟩)
      · exact .inr trivial
      · exact hr.leaves x hx
    · obtain ⟨quiet, e, rest, e', rfl, hquiet, hend⟩ := hr.ended result h
      refine ⟨⟨.handled, a⟩ :: quiet, e, rest, e', rfl, ?_, hend⟩
      rintro x (_ | ⟨_, hx⟩)
      · rfl
      · exact hquiet x hx

/-! ### What becomes of any payload -/

/-- The exchanges in which a payload is handed back. -/
def handingBack (v : V) (t : Traits) : History V E :=
  [⟨.inspect v .payload, .ok t⟩, ⟨.due, .goOn⟩, ⟨.report (.passing v), none⟩]

/-- A payload that means nothing is handed back when it is read. -/
lemma handingBack_goes (m : Manner) (waiting : List (Level V)) (p v : V) (form : Form)
    (ht : t.kind = .ok .passthrough) :
    (Run.active waiting (afterSignal m p form (.yields v))).Goes m (handingBack v t)
      (.active waiting (.ask (.resume form.via p (.send v)) (afterSignal (E := E) m p form))) := by
  have hcomes : (afterSignal m p form (.yields v)).Comes (handingBack v t)
      (.again (.halted p form) (.send v) : Verdict V E) := by
    refine ⟨_, _, rfl, ?_⟩
    simp only [ht]
    exact ⟨_, _, rfl, _, _, rfl, rfl, rfl⟩
  have hcycle : cycle m (.halted p form) (.send v) =
      .ask (.resume form.via p (.send v)) (afterSignal (E := E) m p form) := cycle_send (.inl rfl)
  have hg : (Run.active waiting (afterSignal m p form (.yields v))).Goes m (handingBack v t ++ [])
      (.active waiting (cycle (E := E) m (.halted p form) (.send v))) :=
    .of_comes hcomes (.here _)
  rwa [List.append_nil, hcycle] at hg

/-- **Uncalled functions are refused unless they are veiled.** In a run of either manner and at any
depth let a program `p` yield `v`, which shows what a function that makes programs shows with these
layers around it.

* If it is not veiled, `v` is refused: the run complains about `v`, never resumes `p`, closes it and
  all who wait for it, and fails, with that complaint unless something comes out of closing.
* If it is veiled, `v` is handed back to `p` in silence, unless a stop was requested or the log fails:
  nothing distinguishes it from a payload that means nothing. -/
theorem uncalled_functions_are_refused [LawfulErrorLike E] (layers : List Layer) {q : V}
    {via : Protocol} {how : Resumption V E} {before : History V E}
    (hg : (Run.start m q).Goes m (before ++ ⟨.resume via p how, .yields v⟩ :: after) run)
    (hlook : ∀ a, ⟨.inspect v .payload, a⟩ ∈ after → a = .ok (Callable.wrapped layers).traits) :
    ∃ waiting next,
      (Run.start m q).Goes m before (.active waiting (.ask (.resume via p how) next)) ∧
      (¬Veiled layers →
        Run.Rejects m waiting p v (Callable.wrapped layers).traits after run) ∧
      (Veiled layers → ∃ quiet next', (∀ x ∈ quiet, x.request = .handled) ∧
        (Run.start m q).Goes m (before ++ ⟨.resume via p how, .yields v⟩ ::
            (quiet ++ handingBack v (Callable.wrapped layers).traits))
          (.active waiting (.ask (.resume via p (.send v)) next'))) := by
  obtain ⟨waiting, next, form, rfl, hat, hafter, hread⟩ := hg.yielded
  refine ⟨waiting, next, hat, fun hv => ?_, fun hv => ?_⟩
  · have hkind := kind_of_not_veiled hv
    obtain hread | hread := hread
    · rw [hread] at hafter
      exact hafter.rejects hkind hlook
    · rw [hread] at hafter
      exact Run.Rejects.handled (fun _ _ hlook hg => hg.rejects hkind hlook) hlook hafter
  · have hback := handingBack_goes (E := E) m waiting p v form (kind_of_veiled hv)
    obtain hread | hread := hread
    · refine ⟨[], afterSignal m p form, nofun, hat.append (.answered _ ?_)⟩
      rw [hread]
      exact hback
    · refine ⟨[⟨.handled, ()⟩], afterSignal m p form, by simp, hat.append (.answered _ ?_)⟩
      rw [hread]
      refine Run.Goes.answered (q := .handled) (a := ()) ?_
      exact hback

end

/-! ### A declared function with arguments -/

section

open Script

/-- A program yields a callable with these layers, and is refused with an error. -/
def refusing (layers : List Layer) (e : Fault) : History Value Fault :=
  [⟨.inspect (.object 1) .payload, .ok (Callable.wrapped layers).traits⟩,
    ⟨.complain (.unresolvable (.object 1) .uncalled), e⟩] ++ abandoned (.object 0) e none

/-- The case of a declared function to which arguments were supplied before it was declared. -/
theorem declared_function_is_refused : ∃ waiting,
    (∀ n rest, [Layer.declared, .supplied] ≠ List.replicate (n + 1) .supplied ++ .declared :: rest) ∧
    Run.Rejects .blocking waiting (.object 0) (.object 1)
      (Callable.wrapped [.declared, .supplied]).traits
      (refusing [.declared, .supplied] (.raised .ordinary 2)) (.over (.error (.raised .ordinary 2))) := by
  have hveiled : ¬Veiled [.declared, .supplied] := not_veiled_declared _
  have hcycle : (cycle .blocking ⟨.object 0, .inl .sync⟩ (.send .none) : Talk Value Fault _).Comes
      (⟨.resume .sync (.object 0) (.send .none), .yields (.object 1)⟩ ::
        refusing [.declared, .supplied] (.raised .ordinary 2))
      (.leave (.error (.raised .ordinary 2))) :=
    ⟨_, _, rfl, _, _, rfl, _, _, rfl, _, _, rfl, _, _, rfl, _, _, rfl, rfl, rfl⟩
  have hall : (Run.active [] (takeUp .blocking (.object 0 : Value))).Goes .blocking _
      (.over (.error (.raised .ordinary 2 : Fault))) :=
    .of_comes (takenUp_comes (.object 0)) (.of_comes hcycle (.here _))
  rw [List.append_nil] at hall
  obtain ⟨waiting, -, -, hrejects, -⟩ :=
    uncalled_functions_are_refused [.declared, .supplied] hall (by simp [refusing, abandoned])
  exact ⟨waiting, fun n rest h => hveiled ⟨n, rest, h⟩, hrejects hveiled⟩

/-- A program that ends with the value it is resumed with. -/
def endsWith (p v : Value) : History Value Fault :=
  [⟨.resume .sync p (.send v), .ends v⟩, ⟨.report (.finished .blocking p (.direct .sync)), none⟩,
    ⟨.close .sync p, none⟩]

/-- Arguments that are supplied to a function that makes programs leave it recognised, but not if the
function is declared to make programs first: a program that yields the callable gets it back, and the
run ends well. -/
theorem supplied_declaration_is_handed_back :
    (Callable.wrapped [.supplied]).traits.kind = .error .uncalled ∧
    (Callable.wrapped [.supplied, .declared]).traits.kind = .ok .passthrough ∧
    (Run.start .blocking (.object 0)).Goes .blocking
      (takenUp (.object 0) ++ ⟨.resume .sync (.object 0) (.send .none), .yields (.object 1)⟩ ::
        handingBack (.object 1) (Callable.wrapped [.supplied, .declared]).traits ++
          endsWith (.object 0) (.object 1))
      (.over (.ok (.object 1) : Except Fault Value)) := by
  refine ⟨by decide, by decide, ?_⟩
  have hyield : (cycle .blocking ⟨.object 0, .inl .sync⟩ (.send .none) : Talk Value Fault _).Comes
      (⟨.resume .sync (.object 0) (.send .none), .yields (.object 1)⟩ ::
        handingBack (.object 1) (Callable.wrapped [.supplied, .declared]).traits)
      (.again ⟨.object 0, .inl .sync⟩ (.send (.object 1))) :=
    ⟨_, _, rfl, _, _, rfl, _, _, rfl, _, _, rfl, rfl, rfl⟩
  have hend : (cycle .blocking ⟨.object 0, .inl .sync⟩ (.send (.object 1)) :
      Talk Value Fault _).Comes (endsWith (.object 0) (.object 1)) (.leave (.ok (.object 1))) :=
    ⟨_, _, rfl, _, _, rfl, _, _, rfl, rfl, rfl⟩
  have hall : (Run.active [] (takeUp .blocking (.object 0 : Value))).Goes .blocking _
      (.over (.ok (.object 1) : Except Fault Value)) :=
    .of_comes (takenUp_comes (.object 0)) (.of_comes hyield (.of_comes hend (.here _)))
  rw [List.append_nil] at hall
  rw [List.append_assoc]
  exact hall

end

end Provision
