import Provision.Proofs.Echo
import Provision.Proofs.ShortCircuit

/-!
Agreement: both ways of driving come to the same on synchronous programs.

Every part of a level that drives a synchronous program cooperatively goes through an echo of what
the same part goes through when it drives in one go (`Talk.Echoes`), as long as all exchanges are
`Exchange.Orderly`: nothing is asynchronous, and no end signal comes out of anything. Where the
lifting stands follows from what the program has done last; `Verdict.Pairs` says so for the levels
that are resumed or wait.

* `takeUp_echoes`, `cycle_echoes`, `proceed_echoes`: the parts of a level;
* `Run.Goes.echoes`: whole runs, by induction on the verdicts;
* `drivers_agree`: the cooperative run can come to the result of the blocking one, after the same
  lookups, the same operations on every program and the same records; it does so exactly if it gets
  the answers that go with that, and from an impartial host it gets them;
* `drivers_differ_on_handled_error`: a program that raises the error being handled can tell the two
  apart.
-/

namespace Provision

variable {V E : Type} [ErrorLike E]

/-! ### Orderly exchanges -/

/-- What is asked of a run of synchronous programs, beside that they end well or fail. -/
structure Exchange.Orderly (x : Exchange V E) : Prop where
  /-- Nothing can be driven through the asynchronous protocol. -/
  synchronous : ∀ v role traits, x = ⟨.inspect v role, .ok traits⟩ → traits.async = false
  /-- The cancellation stops a run with an ordinary error. -/
  stops : ∀ how, x = ⟨.due, .stop how⟩ → ∃ e, how = .throw e ∧ ErrorLike.nature e = .ordinary
  /-- No end signal of synchronous programs comes out of anything. -/
  ended : ∀ e, x.request.errorIn x.answer = some e → ErrorLike.nature e ≠ .ended
  /-- No program lets the end signal of asynchronous programs out, when it is resumed or closed. -/
  resumes : ∀ via p how e, x = ⟨.resume via p how, .raises e⟩ → ErrorLike.nature e ≠ .asyncEnded
  closes : ∀ via p e, x = ⟨.close via p, some e⟩ →
    ErrorLike.nature e ≠ .asyncEnded ∧ ErrorLike.nature e ≠ .closing

/-- A program may fail with any ordinary error. -/
lemma Exchange.orderly_raises {via : Protocol} {p : V} {how : Resumption V E} {e : E}
    (he : ErrorLike.nature e = .ordinary) : Exchange.Orderly ⟨.resume via p how, .raises e⟩ where
  synchronous _ _ _ h := by cases h
  stops _ h := by cases h
  ended e' h := by
    obtain rfl := Option.some.inj h
    rw [he]
    decide
  resumes _ _ _ e' h := by
    cases h
    rw [he]
    decide
  closes _ _ _ h := by cases h

/-- The same value, or the same error, and that is no end signal. -/
inductive Passing {α : Type} : Except E α → Except E α → Prop
  | ok (a : α) : Passing (.ok a) (.ok a)
  | error {e : E} : ErrorLike.nature e ≠ .ended → Passing (.error e) (.error e)

/-- A level that is a coroutine lets everything out but the end signal. -/
lemma Passing.out {result result' : Except E V} (h : Passing result result') (m : Manner) :
    m.out result' = result := by
  cases h with
  | ok v => rfl
  | error he => rw [Manner.out_error, m.cross_of_not_ended he]

/-! ### Talks that echo each other -/

section

variable {α β γ δ : Type} {P : α → β → Prop}

/-- Whatever the first talk comes to in an orderly history, the second one comes to its counterpart
in an echo of it. -/
def Talk.Echoes (P : α → β → Prop) (t : Talk V E α) (t' : Talk V E β) : Prop :=
  ∀ h a, t.Comes h a → (∀ x ∈ h, x.Orderly) → ∃ h' a', t'.Comes h' a' ∧ Echo h h' ∧ P a a'

lemma echoes_done {a : α} {b : β} (h : P a b) :
    (Talk.done a : Talk V E α).Echoes P (.done b) := by
  rintro _ _ ⟨rfl, rfl⟩ -
  exact ⟨[], b, ⟨rfl, rfl⟩, .nil, h⟩

lemma echoes_ask {q : Request V E} {next : q.Answer → Talk V E α} {next' : q.Answer → Talk V E β}
    (hnext : ∀ a, Exchange.Orderly ⟨q, a⟩ → (next a).Echoes P (next' a)) :
    (Talk.ask q next).Echoes P (.ask q next') := by
  rintro _ b ⟨a, h, rfl, hb⟩ ho
  obtain ⟨h', b', hb', he, hp⟩ :=
    hnext a (ho _ List.mem_cons_self) h b hb fun x hx => ho x (List.mem_cons_of_mem _ hx)
  exact ⟨⟨q, a⟩ :: h', b', ⟨a, h', rfl, hb'⟩, .same _ he, hp⟩

/-- The records may differ in who drives and in which form. -/
lemma echoes_report {r r' : Report V} (hr : r.Alike r') {next : Option E → Talk V E α}
    {next' : Option E → Talk V E β}
    (hnext : ∀ a, Exchange.Orderly ⟨.report r, a⟩ → (next a).Echoes P (next' a)) :
    (Talk.ask (.report r) next).Echoes P (.ask (.report r') next') := by
  rintro _ b ⟨a, h, rfl, hb⟩ ho
  obtain ⟨h', b', hb', he, hp⟩ :=
    hnext a (ho _ List.mem_cons_self) h b hb fun x hx => ho x (List.mem_cons_of_mem _ hx)
  exact ⟨⟨.report r', a⟩ :: h', b', ⟨a, h', rfl, hb'⟩, .reports a hr he, hp⟩

/-- Talks one after the other. -/
lemma Talk.Echoes.bind {Q : γ → δ → Prop} {t : Talk V E α} {t' : Talk V E β}
    {f : α → Talk V E γ} {f' : β → Talk V E δ} (ht : t.Echoes P t')
    (hf : ∀ a b, P a b → (f a).Echoes Q (f' b)) : (t.bind f).Echoes Q (t'.bind f') := by
  intro h c hc ho
  obtain ⟨h₁, a, h₂, rfl, ha, hfa⟩ := (Talk.comes_bind t).1 hc
  obtain ⟨h₁', b, hb, he₁, hp⟩ := ht h₁ a ha fun x hx => ho x (List.mem_append_left _ hx)
  obtain ⟨h₂', d, hd, he₂, hq⟩ := hf a b hp h₂ c hfa fun x hx => ho x (List.mem_append_right _ hx)
  exact ⟨h₁' ++ h₂', d, (Talk.comes_bind t').2 ⟨h₁', b, h₂', rfl, hb, hd⟩, he₁.append he₂, hq⟩

/-- Talks during which an error is being handled. -/
lemma Talk.Echoes.handling {t : Talk V E α} {t' : Talk V E β} (ht : t.Echoes P t') (e : E) :
    (Talk.handling e t).Echoes P (Talk.handling e t') :=
  echoes_ask fun _ _ => ht.bind fun _ _ hp => echoes_ask fun _ _ => echoes_done hp

end

/-! ### One answer -/

lemma lookup_echoes (name : V) :
    (lookup name : Talk V E _).Echoes Passing (lookup name) := by
  refine echoes_ask fun finding ho => ?_
  cases finding with
  | found v => exact echoes_done (.ok v)
  | failed e => exact echoes_done (.error (ho.ended e rfl))
  | absent said =>
    refine Talk.Echoes.handling (echoes_ask fun problem ho => ?_) said
    cases problem with
    | some e => exact echoes_done (.error (ho.ended e rfl))
    | none => exact echoes_ask fun e ho => echoes_done (.error (ho.ended e rfl))

lemma classify_echoes (payload : V) :
    (classify payload : Talk V E _).Echoes Passing (classify payload) := by
  refine echoes_ask fun a ho => ?_
  cases a with
  | error e => exact echoes_done (.error (ho.ended e rfl))
  | ok traits =>
    dsimp only
    split
    · next kind _ => exact echoes_done (.ok kind)
    · exact echoes_ask fun e ho => echoes_done (.error (ho.ended e rfl))
    · refine echoes_ask fun problem ho => ?_
      cases problem with
      | some e => exact echoes_done (.error (ho.ended e rfl))
      | none => exact echoes_ask fun e ho => echoes_done (.error (ho.ended e rfl))

/-! ### One level -/

section

variable [ValueLike V]

/-- How a level may be resumed, depending on where the lifting of its program stands. -/
inductive Ready : Lifting.Stage → Resumption V E → Prop
  | starts : Ready .unstarted (.send ValueLike.nothing)
  | sends (v : V) : Ready .waiting (.send v)
  | throws {e : E} : ErrorLike.nature e = .ordinary → Ready .waiting (.throw e)

/-- The same response, and the lifting of the program stands where it has to after that. -/
inductive Resumed (p : V) : Level V × Response V E → Level V × Response V E → Prop
  | yields (payload : V) :
    Resumed p (⟨p, .inl .sync⟩, .yields payload) (⟨p, .inr .waiting⟩, .yields payload)
  | ends (v : V) : Resumed p (⟨p, .inl .sync⟩, .ends v) (⟨p, .inr .delivering⟩, .ends v)
  | raises {e : E} : ErrorLike.nature e ≠ .ended →
    Resumed p (⟨p, .inl .sync⟩, .raises e) (⟨p, .inr .finished⟩, .raises e)

/-- Verdicts that lead to the same: the levels are of the same program, and the lifting stands where
it has to. -/
inductive Verdict.Pairs : Verdict V E → Verdict V E → Prop
  | again (p : V) {stage : Lifting.Stage} {how : Resumption V E} : Ready stage how →
    Pairs (.again ⟨p, .inl .sync⟩ how) (.again ⟨p, .inr stage⟩ how)
  | enter (p nested : V) : Pairs (.enter ⟨p, .inl .sync⟩ nested) (.enter ⟨p, .inr .waiting⟩ nested)
  | leave {result : Except E V} : Passing result result → Pairs (.leave result) (.leave result)

variable {p : V} {stage : Lifting.Stage} {result result' : Except E V}

/-- What follows on the signal of a program that was resumed. -/
lemma resumed_follow {how : Resumption V E} {s : Signal V E}
    (ho : Exchange.Orderly ⟨.resume .sync p how, s⟩) :
    Resumed p (⟨p, .inl .sync⟩, Protocol.sync.response s)
      (⟨p, .inr (Lifting.follow s).1⟩, (Lifting.follow s).2.response) := by
  cases s with
  | yields payload => exact .yields payload
  | ends v => exact .ends v
  | raises e =>
    have he : ErrorLike.nature e ≠ .ended := ho.ended e rfl
    have hcross := lifting_cross_of_not_ended he (ho.resumes _ _ _ e rfl)
    simp only [Lifting.follow, hcross]
    exact .raises he

lemma resume_echoes {how : Resumption V E} (hready : Ready stage how) :
    (Level.resume ⟨p, .inl .sync⟩ how).Echoes (Resumed p) (Level.resume ⟨p, .inr stage⟩ how) := by
  cases hready with
  | starts => exact echoes_ask fun s ho => echoes_done (resumed_follow ho)
  | sends v => exact echoes_ask fun s ho => echoes_done (resumed_follow ho)
  | @throws e he =>
    -- The lifting throws the error on, and while it does that the error is being handled.
    rintro _ _ ⟨s, h, rfl, rfl, rfl⟩ ho
    have hs := resumed_follow (ho _ List.mem_cons_self)
    refine ⟨_, _, ?_, .throws s he .nil, hs⟩
    simp only [Level.resume, Lifting.resume, Lifting.throwOn, he]
    exact ⟨(), _, rfl, s, _, rfl, (), _, rfl, rfl, rfl⟩

omit [ValueLike V] in
/-- What comes out of closing a level is the same. A lifting that waits is closed before its program
is, and that closes it a first time. -/
lemma close_echoes (p : V) (stage : Lifting.Stage) :
    (Level.close ⟨p, .inl .sync⟩ : Talk V E _).Echoes
      (fun a b => b = a ∧ ∀ e, a = some e → ErrorLike.nature e ≠ .ended)
      (Level.close ⟨p, .inr stage⟩) := by
  have hplain : (Talk.ask (.close .sync p) .done : Talk V E (Option E)).Echoes
      (fun a b => b = a ∧ ∀ e, a = some e → ErrorLike.nature e ≠ .ended)
      (.ask (.close .sync p) .done) :=
    echoes_ask fun a ho => echoes_done ⟨rfl, fun e he => ho.ended e he⟩
  cases stage with
  | unstarted | delivering | finished => exact hplain
  | waiting =>
    rintro _ a ⟨_, h, rfl, rfl, rfl⟩ ho
    cases a with
    | none =>
      refine ⟨_, none, ?_, .closes .nil, rfl, fun e he => by cases he⟩
      exact ⟨(), _, rfl, none, _, rfl, (), _, rfl, none, _, rfl, rfl, rfl⟩
    | some e =>
      have ho' := ho _ List.mem_cons_self
      have he : ErrorLike.nature e ≠ .ended := ho'.ended e rfl
      obtain ⟨hasync, hclosing⟩ := ho'.closes _ _ e rfl
      have hleft : Lifting.leftover (Boundary.lifting.cross e) = some e := by
        rw [lifting_cross_of_not_ended he hasync, Lifting.leftover]
        split <;> first | rfl | contradiction
      refine ⟨_, some e, ?_, .fails e .nil, rfl, fun e' he' => by cases he'; exact he⟩
      refine ⟨(), _, rfl, some e, _, rfl, (), [], rfl, ?_⟩
      simp only [Talk.bind, hleft]
      exact ⟨rfl, rfl⟩

/-- Both manners leave with what passes. -/
lemma leave_echoes (hr : Passing result result') :
    (Talk.done (.leave (Manner.blocking.out result)) : Talk V E (Verdict V E)).Echoes Verdict.Pairs
      (.done (.leave (Manner.cooperative.out result'))) := by
  have hout := hr.out .cooperative
  cases hr with
  | ok v => exact echoes_done (.leave (.ok v))
  | error he =>
    rw [hout]
    exact echoes_done (.leave (.error he))

/-- A level is closed, and left with the same result or with the same error from closing. -/
lemma finish_echoes (p : V) (stage : Lifting.Stage) (hr : Passing result result') :
    (finish .blocking ⟨p, .inl .sync⟩ result).Echoes Verdict.Pairs
      (finish .cooperative ⟨p, .inr stage⟩ result') := by
  cases hr with
  | ok v =>
    refine (close_echoes p stage).bind fun a b hab => ?_
    obtain ⟨rfl, ha⟩ := hab
    cases b with
    | some e => exact leave_echoes (.error (ha e rfl))
    | none => exact leave_echoes (.ok v)
  | @error e he =>
    refine ((close_echoes p stage).handling e).bind fun a b hab => ?_
    obtain ⟨rfl, ha⟩ := hab
    cases b with
    | some e' => exact leave_echoes (.error (ha e' rfl))
    | none => exact leave_echoes (.error he)

lemma reporting_echoes (p : V) (stage : Lifting.Stage) {r r' : Report V} (hr : r.Alike r')
    {next next' : Talk V E (Verdict V E)} (hnext : next.Echoes Verdict.Pairs next') :
    (reporting .blocking ⟨p, .inl .sync⟩ r next).Echoes Verdict.Pairs
      (reporting .cooperative ⟨p, .inr stage⟩ r' next') := by
  refine echoes_report hr fun problem ho => ?_
  cases problem with
  | some e => exact finish_echoes p stage (.error (ho.ended e rfl))
  | none => exact hnext

lemma deliver_echoes (p : V) (stage : Lifting.Stage) {value : Talk V E (Except E V)}
    (hvalue : value.Echoes Passing value) :
    (deliver .blocking ⟨p, .inl .sync⟩ value).Echoes Verdict.Pairs
      (deliver .cooperative ⟨p, .inr stage⟩ value) :=
  reporting_echoes p stage (.finished ..) <| hvalue.bind fun _ _ h => finish_echoes p stage h

/-- A stop is thrown into a program that waits. -/
lemma unlessDue_echoes (p : V) {answer answer' : Talk V E (Verdict V E)}
    (hanswer : answer.Echoes Verdict.Pairs answer') :
    (unlessDue .blocking ⟨p, .inl .sync⟩ answer).Echoes Verdict.Pairs
      (unlessDue .cooperative ⟨p, .inr .waiting⟩ answer') := by
  refine echoes_ask fun due ho => ?_
  cases due with
  | goOn => exact hanswer
  | stop how =>
    obtain ⟨e, rfl, he⟩ := ho.stops how rfl
    exact echoes_done (.again p (.throws he))
  | failed e => exact finish_echoes p .waiting (.error (ho.ended e rfl))

/-- A payload is answered while the program waits. -/
lemma settle_echoes (p payload : V) (kind : Kind) :
    (settle .blocking ⟨p, .inl .sync⟩ payload kind : Talk V E _).Echoes Verdict.Pairs
      (settle .cooperative ⟨p, .inr .waiting⟩ payload kind) := by
  cases kind with
  | completion =>
    refine deliver_echoes p .waiting (echoes_ask fun value ho => ?_)
    cases value with
    | error e => exact echoes_done (.error (ho.ended e rfl))
    | ok v => exact echoes_done (.ok v)
  | nested =>
    refine unlessDue_echoes p (reporting_echoes p .waiting (.nested ..) ?_)
    exact echoes_done (.enter p payload)
  | service =>
    refine unlessDue_echoes p (echoes_ask fun name ho => ?_)
    cases name with
    | error e => exact finish_echoes p .waiting (.error (ho.ended e rfl))
    | ok name =>
      refine (lookup_echoes name).bind fun a b hab => ?_
      cases hab with
      | error he => exact finish_echoes p .waiting (.error he)
      | ok v => exact reporting_echoes p .waiting (.same _) (echoes_done (.again p (.sends v)))
  | passthrough =>
    refine unlessDue_echoes p (reporting_echoes p .waiting (.same _) ?_)
    exact echoes_done (.again p (.sends payload))

lemma cycle_echoes (p : V) {how : Resumption V E} (hready : Ready stage how) :
    (cycle .blocking ⟨p, .inl .sync⟩ how).Echoes Verdict.Pairs
      (cycle .cooperative ⟨p, .inr stage⟩ how) := by
  refine (resume_echoes hready).bind fun a b hab => ?_
  cases hab with
  | raises he => exact finish_echoes p .finished (.error he)
  | ends v => exact deliver_echoes p .delivering (echoes_done (.ok v))
  | yields payload =>
    refine (classify_echoes payload).bind fun a b hab => ?_
    cases hab with
    | error he => exact finish_echoes p .waiting (.error he)
    | ok kind => exact settle_echoes p payload kind

/-- Both ways of driving accept the same programs, if none is asynchronous. -/
lemma takeUp_echoes (p : V) :
    (takeUp .blocking p : Talk V E _).Echoes Verdict.Pairs (takeUp .cooperative p) := by
  refine echoes_ask fun a ho => ?_
  cases a with
  | error e => exact leave_echoes (.error (ho.ended e rfl))
  | ok traits =>
    have hasync : traits.async = false := ho.synchronous _ _ _ rfl
    cases hsync : traits.sync with
    | false =>
      simp only [Manner.accept, hasync, hsync]
      exact echoes_ask fun e ho => leave_echoes (.error (ho.ended e rfl))
    | true =>
      simp only [Manner.accept, hasync, hsync]
      refine echoes_ask fun problem ho => ?_
      cases problem with
      | some e => exact finish_echoes p .unstarted (.error (ho.ended e rfl))
      | none => exact echoes_done (.again p .starts)

lemma proceed_echoes (p : V) (hr : Passing result result') :
    (proceed .blocking ⟨p, .inl .sync⟩ result).Echoes Verdict.Pairs
      (proceed .cooperative ⟨p, .inr .waiting⟩ result') := by
  cases hr with
  | ok v => exact cycle_echoes p (.sends v)
  | error he => exact finish_echoes p .waiting (.error he)

/-! ### Whole runs -/

/-- Runs that stand at the same place: the same programs wait, and the talks echo each other. -/
inductive Run.Pairs : Run V E → Run V E → Prop
  | active (programs : List V) {t t' : Talk V E (Verdict V E)} : t.Echoes Verdict.Pairs t' →
    Pairs (.active (programs.map fun p => ⟨p, .inl .sync⟩) t)
      (.active (programs.map fun p => ⟨p, .inr .waiting⟩) t')
  | over (result : Except E V) : Pairs (.over result) (.over result)

/-- Paired verdicts lead to paired runs. -/
lemma Verdict.Pairs.next {v v' : Verdict V E} (hv : v.Pairs v') (programs : List V) :
    (v.next .blocking (programs.map fun p => ⟨p, .inl .sync⟩)).Pairs
      (v'.next .cooperative (programs.map fun p => ⟨p, .inr .waiting⟩)) := by
  cases hv with
  | again p hready => exact .active programs (cycle_echoes p hready)
  | enter p nested => exact .active (p :: programs) (takeUp_echoes nested)
  | leave hr =>
    cases programs with
    | nil => exact .over _
    | cons p programs => exact .active programs (proceed_echoes p hr)

/-- A blocking run that finishes is echoed by the cooperative run of the same program. -/
lemma Run.Goes.echoes {r r' : Run V E} {h : History V E} {result : Except E V}
    (hg : r.Goes .blocking h (.over result)) (hp : r.Pairs r') (ho : ∀ x ∈ h, x.Orderly) :
    ∃ h', r'.Goes .cooperative h' (.over result) ∧ Echo h h' := by
  revert r' ho
  refine Run.Goes.over_induction (motive := fun r h => ∀ {r' : Run V E}, r.Pairs r' →
    (∀ x ∈ h, x.Orderly) → ∃ h', r'.Goes .cooperative h' (.over result) ∧ Echo h h')
    ?finished (fun waiting t h₁ v h₂ hc ih => ?talking) hg
  case finished =>
    intro r' hp _
    cases hp
    exact ⟨[], .here _, .nil⟩
  case talking =>
    intro r' hp ho
    cases hp with
    | active programs ht =>
      obtain ⟨h₁', v', hc', he₁, hv⟩ := ht h₁ v hc fun x hx => ho x (List.mem_append_left _ hx)
      obtain ⟨h₂', hg', he₂⟩ := ih (hv.next programs) fun x hx => ho x (List.mem_append_right _ hx)
      exact ⟨h₁' ++ h₂', .of_comes hc' hg', he₁.append he₂⟩

/-- Synchronous programs, an environment and a cancellation are driven in one go and come to a
result in an orderly way. Then there is one way for the cooperative run of the same program to come
to that result: it looks up the same names, does the same to every program, except for closing it
again after it was closed, and puts the same into the log. It goes that way exactly if it gets the
answers that go with it, among them those of the programs into which an error is thrown, or which
are closed, while that is being handled. If nobody takes notice of which error is being handled, it
gets them. -/
theorem drivers_agree [DecidableEq V] {σ : Type} {host : Host V E σ} {p : V} {s s' : σ} {fuel : ℕ}
    {result : Except E V} {h : History V E}
    (hrun : (Run.start .blocking p).conduct .blocking host.recorded fuel (s, []) =
      (some result, s', h))
    (ho : ∀ x ∈ h, x.Orderly) :
    ∃ h', History.lookups h' = History.lookups h ∧
      (∀ q, History.operations q false h' = History.operations q false h) ∧
      List.Forall₂ Report.Alike (History.records h) (History.records h') ∧
      (∀ t, (∃ fuel' t' k, (Run.start .cooperative p).conduct .cooperative host.recorded fuel'
          (t, []) = (some result, t', k) ∧ Echo h k) ↔ ∃ t', host.Answers t h' t') ∧
      ∀ (R : σ → σ → Prop) (t : σ), host.Impartial R → R s t → ∃ t', R s' t' ∧
        (∃ fuel', (Run.start .cooperative p).conduct .cooperative host.recorded fuel' (t, []) =
          (some result, t', h')) ∧
        ∀ fuel' result' u k,
          (Run.start .cooperative p).conduct .cooperative host.recorded fuel' (t, []) =
            (some result', u, k) → result' = result ∧ k = h' ∧ u = t' := by
  obtain ⟨h, r, rfl, hs, hg, hover⟩ := Run.conduct_recorded hrun
  obtain rfl := hover result rfl
  -- The cooperative run goes through an echo, whatever the host.
  have hpairs : (Run.start .blocking p : Run V E).Pairs (Run.start .cooperative p) :=
    .active [] (takeUp_echoes p)
  obtain ⟨h', hg', he⟩ := hg.echoes hpairs ho
  refine ⟨h', he.lookups, fun q => he.operations q false, he.records, fun t => ⟨?_, ?_⟩, ?_⟩
  · rintro ⟨fuel', t', k, hcoop, hk⟩
    obtain ⟨k, r, rfl, ht, hgk, -⟩ := Run.conduct_recorded hcoop
    obtain rfl := he.unique hk hg' hgk
    exact ⟨t', ht⟩
  · rintro ⟨t', ht⟩
    obtain ⟨fuel', hfuel⟩ := Run.conduct_of_goes hg' (ht.recorded [])
    exact ⟨fuel', t', h', hfuel, he⟩
  · intro R t hhost hst
    obtain ⟨t', hR, ht⟩ := he.answers hhost hst hs
    obtain ⟨fuel', hfuel⟩ := Run.conduct_of_goes hg' (ht.recorded [])
    refine ⟨t', hR, ⟨fuel', hfuel⟩, fun fuel' result' u k hcoop => ?_⟩
    obtain ⟨k, r, rfl, hu, hgk, hover'⟩ := Run.conduct_recorded hcoop
    obtain rfl := hover' result' rfl
    exact Run.Goes.unique hg' ht hgk hu

end

/-! ### A program that is stopped -/

section

open Script

/-- One program, which suspends and then has the error of a stop thrown into it. What it does then may
depend on the errors that are being handled. -/
def stopped (reaction : List Fault → Signal Value Fault) : Host Value Fault (List Fault)
  | .inspect _ .program, s => (.ok synchronous, s)
  | .inspect _ .payload, s => (.ok plain, s)
  | .due, s => (.stop (.throw (.raised .ordinary 1)), s)
  | .resume _ _ (.send _), s => (.yields .none, s)
  | .resume _ _ (.throw _), s => (reaction s, s)
  | .handle e, s => ((), e :: s)
  | .handled, s => ((), s.tail)
  | .nameOf token, s => (.ok token, s)
  | .find name, s => (.found name, s)
  | .valueOf completion, s => (.ok completion, s)
  | .complain _, s => (.spent, s)
  | .build .., s => (.ok .none, s)
  | .barred, s | .close .., s | .report _, s | .discard _, s => (none, s)

/-- If it does the same whatever is being handled, nobody takes notice of that. -/
lemma stopped_impartial (signal : Signal Value Fault) :
    (stopped fun _ => signal).Impartial Eq where
  same q := by
    rintro rfl
    exact ⟨rfl, rfl⟩
  reports _ := by
    rintro rfl
    exact ⟨rfl, rfl⟩
  again _ := by
    rintro rfl
    exact ⟨rfl, rfl⟩
  throws _ := by
    rintro rfl
    exact ⟨rfl, rfl⟩
  closes := by
    rintro s _ p rfl
    exact ⟨rfl, rfl⟩

/-- The blocking run of that program, up to where it has the error thrown into it. -/
def untilStopped (p : Value) : History Value Fault :=
  takenUp p ++
    [⟨.resume .sync p (.send .none), .yields .none⟩, ⟨.inspect .none .payload, .ok plain⟩,
      ⟨.due, .stop (.throw (.raised .ordinary 1))⟩]

/-- The program ends although it is stopped. -/
def endsStopped (p v : Value) : History Value Fault :=
  untilStopped p ++
    [⟨.resume .sync p (.throw (.raised .ordinary 1)), .ends v⟩,
      ⟨.report (.finished .blocking p (.direct .sync)), none⟩, ⟨.close .sync p, none⟩]

/-- The program fails with an error when it is stopped. -/
def failsStopped (p : Value) (e : Fault) : History Value Fault :=
  untilStopped p ++ ⟨.resume .sync p (.throw (.raised .ordinary 1)), .raises e⟩ :: abandoned p e none

lemma untilStopped_orderly (p : Value) : ∀ x ∈ untilStopped p, x.Orderly := by
  intro x hx
  simp only [untilStopped, takenUp, List.cons_append, List.nil_append, List.mem_cons,
    List.not_mem_nil, or_false] at hx
  obtain rfl | rfl | rfl | rfl | rfl := hx <;> constructor <;>
    simp [synchronous, plain, Request.errorIn, ErrorLike.nature]

lemma endsStopped_orderly (p v : Value) : ∀ x ∈ endsStopped p v, x.Orderly := by
  intro x hx
  obtain hx | hx := List.mem_append.1 hx
  · exact untilStopped_orderly p x hx
  · simp only [List.mem_cons, List.not_mem_nil, or_false] at hx
    obtain rfl | rfl | rfl := hx <;> constructor <;> simp [Request.errorIn]

lemma failsStopped_orderly (p : Value) (r : ℕ) :
    ∀ x ∈ failsStopped p (.raised .ordinary r), x.Orderly := by
  intro x hx
  obtain hx | hx := List.mem_append.1 hx
  · exact untilStopped_orderly p x hx
  · simp only [abandoned, List.mem_cons, List.not_mem_nil, or_false] at hx
    obtain rfl | hx := hx
    · exact Exchange.orderly_raises rfl
    · obtain rfl | rfl | rfl := hx <;> constructor <;> simp [Request.errorIn]

/-- A program swallows the error of a stop and ends with a value. Driven cooperatively, it comes to
that value as well, and to nothing else. -/
theorem drivers_agree_on_swallowed_stop :
    (∃ fuel t h, (Run.start .cooperative (.object 0)).conduct .cooperative
      (stopped fun _ => .ends (.int 2)).recorded fuel ([], []) = (some (.ok (.int 2)), t, h)) ∧
    ∀ fuel result t h, (Run.start .cooperative (.object 0)).conduct .cooperative
        (stopped fun _ => .ends (.int 2)).recorded fuel ([], []) = (some result, t, h) →
      result = .ok (.int 2) := by
  have hrun : (Run.start .blocking (.object 0)).conduct .blocking
      (stopped fun _ => .ends (.int 2)).recorded 12 ([], []) =
        (some (.ok (.int 2)), [], endsStopped (.object 0) (.int 2)) := rfl
  obtain ⟨h', -, -, -, -, hagree⟩ :=
    drivers_agree hrun (endsStopped_orderly (.object 0) (.int 2))
  obtain ⟨t', -, ⟨fuel, hends⟩, hall⟩ := hagree Eq [] (stopped_impartial (.ends (.int 2))) rfl
  exact ⟨⟨fuel, t', h', hends⟩, fun fuel result t h hcoop => (hall fuel result t h hcoop).1⟩

/-- A program swallows the error of a stop and then raises whatever error is being handled, or
another one if there is none. All it exchanges is orderly, but it fails with different errors:
when it is driven cooperatively, the error of the stop is being handled by its lifting. -/
theorem drivers_differ_on_handled_error :
    (Run.start .blocking (.object 0)).conduct .blocking
        (stopped fun s => .raises (s.headD (.raised .ordinary 2))).recorded 13 ([], []) =
      (some (.error (.raised .ordinary 2)), [],
        failsStopped (.object 0) (.raised .ordinary 2)) ∧
    (∀ x ∈ failsStopped (.object 0) (.raised .ordinary 2), x.Orderly) ∧
    (Run.start .cooperative (.object 0)).conduct .cooperative
        (stopped fun s => .raises (s.headD (.raised .ordinary 2))) 20 [] =
      (some (.error (.raised .ordinary 1)), []) :=
  ⟨rfl, failsStopped_orderly (.object 0) 2, rfl⟩

end

end Provision
