import Provision.Proofs.Delegating

/-!
Forwarding: a nested program that is delegated to instead.

A program `o` that yields the program `p` waits until a call of its own has run `p`. Where `o`
delegates, `p` is resumed by `o` itself, and whatever `p` yields is answered as a payload of `o`.
`Host.Hands` says of whom that is kept secret: related states of the surroundings are those which
nobody who is asked can tell apart.

* `Host.Hands.answers_before`: up to the point at which `o` delegates there is no difference;
* `Unfolds.forwards`: by induction on what `p` asks for until it returns, `o` comes to be sent the
  same value;
* `Host.Hands.course_idle`: from there on there is no difference again;
* `Nesting`: a run up to the return of `p`, and `Nesting.sameCourse` all of it;
* `delegating_agrees_with_yielding`: tokens and programs together.

A program that takes notice of an error which is being handled around it is told apart
(`delegating_is_not_always_yielding`).
-/

namespace Provision

variable {V E σ : Type}

/-! ### Programs that can be handed over to -/

/-- A program as a generator delegates to it that is handling an error: the program is its own
iterator, and the error is being handled while it runs. -/
def Delegate.amid (host : Host V E σ) (e : E) : Delegate (StateM σ) V E V where
  make p := pure (.ok p)
  resume p how s :=
    let x := host.whileHandling e (.resume .sync p how) s
    ((x.1, p), x.2)
  close p := host.whileHandling e (.close .sync p)

/-- Nobody who is asked can tell whether `p` is run by a call of its own or by a generator that
delegates to it, which resumes it by `d`. Related states are those which nobody can tell apart. -/
structure Host.Hands (host : Host V E σ) (R : σ → σ → Prop) (p : V)
    (d : Delegate (StateM σ) V E V) : Prop where
  equiv : Equivalence R
  same {s t : σ} (q : Request V E) : R s t → Agree R (host q s) (host q t)
  /-- Looking at the program leaves no trace, nor does anything that is only put down. -/
  looks (role : Role) (s : σ) : R (host (.inspect p role) s).2 s
  starts (s : σ) : R (host .barred s).2 s
  waits (s : σ) : R (host .due s).2 s
  reports (r : Report V) (s : σ) : R (host (.report r) s).2 s
  /-- The program is its own iterator. -/
  iterates (s : σ) : (d.make p s).1 = .ok p ∧ R s (d.make p s).2
  /-- It responds to the generator around it as it does to a driver. -/
  heedless (v : V) (s : σ) :
    (d.resume p (.send v) s).1 = ((host (.resume .sync p (.send v)) s).1, p) ∧
      R (host (.resume .sync p (.send v)) s).2 (d.resume p (.send v) s).2
  /-- Closing the program at its end does nothing. -/
  ended {v w : V} {s : σ} : (host (.resume .sync p (.send v)) s).1 = .ends w →
    R (host (.close .sync p) (host (.resume .sync p (.send v)) s).2).2
      (host (.resume .sync p (.send v)) s).2

section

variable {host : Host V E σ} {R : σ → σ → Prop} {o p : V} {d : Delegate (StateM σ) V E V}
  {ignored : E}

/-- What is looked at and put down on the way leaves no trace. -/
lemma Host.Hands.silent (hhost : host.Hands R p d) {q : Request V E} {s t : σ}
    (hq : R (host q s).2 s) (hst : R s t) : R (host q s).2 t := hhost.equiv.trans hq hst

variable [ValueLike V]

/-- What `o` comes to when the program that it has handed over to is sent a value. -/
def Host.forwarded (host : Host V E σ) (o p : V) (d : Delegate (StateM σ) V E V) (v : V) (t : σ) :
    Signal V E × σ × Delegation.Stage V :=
  Delegation.beside ((do
    Delegation.relay [] (Delegation.goOn (host.own o) d []) (← d.resume p (.send v))) t)

/-- It is made of what the program responds to a driver. -/
lemma Host.Hands.forwarded (hhost : host.Hands R p d) {s t : σ} (hst : R s t) (v : V) :
    ∃ t', R (host (.resume .sync p (.send v)) s).2 t' ∧ host.forwarded o p d v t =
      Delegation.beside (Delegation.relay [] (Delegation.goOn (host.own o) d [])
        ((host (.resume .sync p (.send v)) s).1, p) t') := by
  obtain ⟨ha, hst'⟩ := hhost.same (.resume .sync p (.send v)) hst
  obtain ⟨hd, ht'⟩ := hhost.heedless v t
  refine ⟨_, hhost.equiv.trans hst' ht', ?_⟩
  rw [← ha, ← hd]
  rfl

variable [ErrorLike E] [DecidableEq V]

/-- Inside a delegation what is sent is sent on. -/
lemma delegating_inside (v : V) (t : σ) :
    host.delegating o d ignored (.resume .sync o (.send v)) (t, .inside p []) =
      host.forwarded o p d v t := delegating_resume _ _ _

/-- At its point the generator hands over to what would be its payload. -/
lemma Host.Hands.delegating_at_point (hhost : host.Hands R p d) (ignored : E)
    {how : Resumption V E} {t : σ} (ht : (host (.resume .sync o how) t).1 = .yields p) : ∃ t',
      R (host (.resume .sync o how) t).2 t' ∧
      host.delegating o d ignored (.resume .sync o how) (t, .outside [0]) =
        host.forwarded o p d ValueLike.nothing t' := by
  obtain ⟨hmake, ht'⟩ := hhost.iterates (host (.resume .sync o how) t).2
  refine ⟨_, ht', ?_⟩
  have hrespond : host.delegating o d ignored (.resume .sync o how) (t, .outside [0]) =
      Delegation.beside (Delegation.respond (host.own o) d [0] (host (.resume .sync o how) t).1
        (host (.resume .sync o how) t).2) := delegating_resume _ _ _
  have hmade : ∀ next : Except E V → StateM σ (Signal V E × Delegation.Stage V),
      (do next (← d.make p)) (host (.resume .sync o how) t).2 =
        next (.ok p) (d.make p (host (.resume .sync o how) t).2).2 := by
    intro next
    rw [← hmake]
    rfl
  rw [hrespond, ht, Delegation.respond, hmade]
  rfl

/-- Whoever has nothing to do with `o` notices nothing. -/
lemma Host.Hands.answers_apart (hhost : host.Hands R p d) {h : History V E} {s s' t : σ}
    (hh : ∀ x ∈ h, ¬x.request.Drives o) (hst : R s t) (hs : host.Answers s h s')
    (stage : Delegation.Stage V) : ∃ t', R s' t' ∧
      (host.delegating o d ignored).Answers (t, stage) h (t', stage) := by
  have hm : host.Mirrors (host.delegating o d ignored) (fun q => ¬q.Drives o)
      fun s t => R s t.1 ∧ t.2 = stage := by
    rintro s ⟨t, _⟩ q hq ⟨hst, rfl⟩
    rw [delegating_apart hq]
    exact ⟨(hhost.same q hst).1, (hhost.same q hst).2, rfl⟩
  have hstart : R s (t, stage).1 ∧ (t, stage).2 = stage := ⟨hst, rfl⟩
  obtain ⟨⟨t', _⟩, ⟨hst', rfl⟩, ht⟩ := hm.answers hh hstart hs
  exact ⟨t', hst', ht⟩

/-- After its last delegation a run goes on as it would otherwise. -/
lemma Host.Hands.course_idle (hhost : host.Hands R p d) {m : Manner} (r : Run V E) {s t : σ}
    (hst : R s t) : r.SameCourse m host (host.delegating o d ignored)
      (fun s t => R s t.1) s (t, .outside []) := by
  have hm : host.Mirrors (host.delegating o d ignored) (fun _ => True)
      fun s t => R s t.1 ∧ t.2 = .outside [] := by
    rintro s ⟨t, _⟩ q - ⟨hst, rfl⟩
    rw [delegating_idle]
    exact ⟨(hhost.same q hst).1, (hhost.same q hst).2, rfl⟩
  exact (hm.sameCourse ⟨hst, rfl⟩ (fun _ _ _ _ _ _ _ => trivial) fun _ _ _ _ _ _ _ => trivial).mono
    fun _ _ h => h.1

end

/-! ### Before the point -/

/-- The program suspends in an exchange. -/
def Exchange.suspends [DecidableEq V] (o : V) : Exchange V E → Bool
  | ⟨.resume .sync p _, .yields _⟩ => p = o
  | _ => false

/-- How often the program suspends. -/
def History.suspensions [DecidableEq V] (o : V) (h : History V E) : ℕ := h.countP (·.suspends o)

section

variable [ValueLike V] [ErrorLike E] [DecidableEq V] {host : Host V E σ} {R : σ → σ → Prop}
  {o p : V} {d : Delegate (StateM σ) V E V} {ignored : E}

omit [ErrorLike E] [ValueLike V] in
lemma suspends_of_apart {x : Exchange V E} (hx : ¬x.request.Drives o) : x.suspends o = false := by
  obtain ⟨q, a⟩ := x
  cases q with
  | resume via p how =>
    cases via with
    | sync => cases a <;> simp_all [Exchange.suspends, Request.Drives]
    | async => rfl
  | _ => rfl

/-- A generator that suspends comes one nearer to its point. -/
lemma delegating_counts {how : Resumption V E} {a : Signal V E} {t : σ}
    (ha : (host (.resume .sync o how) t).1 = a) (n : ℕ) :
    host.delegating o d ignored (.resume .sync o how)
      (t, .outside [n + if (⟨.resume .sync o how, a⟩ : Exchange V E).suspends o then 1 else 0]) =
        (a, (host (.resume .sync o how) t).2, .outside [n]) := by
  have hrespond : Delegation.respond (host.own o) d
      [n + if (⟨.resume .sync o how, a⟩ : Exchange V E).suspends o then 1 else 0] a =
        pure (a, .outside [n]) := by
    cases a with
    | yields v => simp [Exchange.suspends, Delegation.respond]
    | ends v => exact respond_over _ nofun
    | raises e => exact respond_over _ nofun
  have hgoes : ∀ points, host.delegating o d ignored (.resume .sync o how) (t, .outside points) =
      Delegation.beside (Delegation.respond (host.own o) d points
        (host (.resume .sync o how) t).1 (host (.resume .sync o how) t).2) :=
    fun points => delegating_resume _ _ _
  rw [hgoes, ha, hrespond]
  rfl

/-- Until `o` comes to the point at which it delegates there is no difference. -/
lemma Host.Hands.answers_before (hhost : host.Hands R p d) {h : History V E} {s s' t : σ}
    (hh : ∀ x ∈ h, x.request ≠ .close .sync o) (hst : R s t) (hs : host.Answers s h s') (n : ℕ) :
    ∃ t', R s' t' ∧ (host.delegating o d ignored).Answers
      (t, .outside [n + h.suspensions o]) h (t', .outside [n]) := by
  induction h generalizing s t with
  | nil =>
    obtain rfl := hs
    exact ⟨t, hst, rfl⟩
  | cons x h ih =>
    obtain ⟨q, a⟩ := x
    obtain ⟨hq, hh⟩ := List.forall_mem_cons.1 hh
    obtain ⟨ha, hst'⟩ := hhost.same q hst
    obtain ⟨t', hR, ht'⟩ := ih hh hst' hs.2
    refine ⟨t', hR, ?_⟩
    have hcount : n + History.suspensions o (⟨q, a⟩ :: h) =
        n + History.suspensions o h + if (⟨q, a⟩ : Exchange V E).suspends o then 1 else 0 := by
      rw [History.suspensions, List.countP_cons, Nat.add_assoc]
      rfl
    have hstep : host.delegating o d ignored q
        (t, .outside [n + History.suspensions o (⟨q, a⟩ :: h)]) =
          (a, (host q t).2, .outside [n + History.suspensions o h]) := by
      obtain rfl : a = (host q t).1 := hs.1.trans ha.symm
      rw [hcount]
      by_cases hdrives : q.Drives o
      · obtain ⟨how, rfl⟩ | rfl := hdrives.cases
        · exact delegating_counts rfl _
        · exact absurd rfl hq
      · rw [suspends_of_apart hdrives, delegating_apart hdrives]
        rfl
    refine ⟨?_, ?_⟩
    · rw [hstep]
    · rw [hstep]
      exact ht'

end

/-! ### While the program runs -/

/-- The program comes to its value by returning, not by yielding a completion. -/
def Unfolding.Returns : Unfolding V → Prop
  | .ends _ => True
  | .completes .. => False
  | .service _ _ _ rest => rest.Returns
  | .nested _ _ rest => rest.Returns
  | .passes _ rest => rest.Returns

section

variable [ValueLike V] [ErrorLike E] {m : Manner} {host : Host V E σ} {R : σ → σ → Prop}
  {o p : V} {d : Delegate (StateM σ) V E V} {ignored : E} {form : Form} {waiting : List (Level V)}
  {s s' t : σ} {u : V}

/-- A program that is evaluated goes to whatever waits for it. -/
lemma Evaluates.goes {T : Unfolding V} {h : History V E} (hT : Evaluates m p T h)
    (waiting : List (Level V)) : (Run.active waiting (takeUp m p)).Goes m h
      ((Verdict.leave (.ok T.value)).next m waiting) := by
  obtain ⟨traits, form, i, rfl, hform, hT⟩ := hT
  obtain ⟨k, rfl, hk⟩ := hT.course (.inr ⟨rfl, rfl⟩)
  have htake : (takeUp m p).Comes (accepting p traits)
      (.again (.opened p form) (.send ValueLike.nothing) : Verdict V E) :=
    (takeUp_comes (by exact trivial) (by simp [accepting, Exchange.Unstopped])).2
      ⟨traits, form, hform, rfl, rfl⟩
  exact .of_comes htake (hk.goes waiting)

omit [ValueLike V] in
/-- A synchronous program that has ended is closed at once. -/
lemma ended_close_comes {closing : History V E} (hform : form.via = .sync)
    (hc : (Level.ended p form).close.Comes closing none) : closing = [⟨.close .sync p, none⟩] := by
  have hask : ∀ {closing : History V E},
      (Talk.ask (.close .sync p) .done : Talk V E (Option E)).Comes closing none →
        closing = [⟨.close .sync p, none⟩] := by
    rintro _ ⟨_, _, rfl, rfl, rfl⟩
    rfl
  cases form with
  | direct via =>
    obtain rfl : via = .sync := hform
    exact hask hc
  | lifted => exact hask hc

/-- A payload of `o` that is answered. -/
lemma answered_goes {payload v : V} {traits : Traits} {kind : Kind} {k : History V E}
    (hkind : traits.kind = .ok kind)
    (hsettle : (settle m (.halted o form) payload kind).Comes k
      (.again (.halted o form) (.send v) : Verdict V E)) :
    (Run.active waiting (afterSignal m o form (.yields payload))).Goes m
      (⟨.inspect payload .payload, .ok traits⟩ :: k)
      (.active waiting (cycle m (.halted o form) (.send v))) := by
  have hcomes : (afterSignal m o form (.yields payload)).Comes
      (⟨.inspect payload .payload, .ok traits⟩ :: k)
      (.again (.halted o form) (.send v) : Verdict V E) :=
    (afterSignal_yields (by exact trivial)).2 ⟨traits, kind, k, hkind, rfl, hsettle⟩
  have hgoes : (Run.active waiting (afterSignal m o form (.yields payload))).Goes m
      (⟨.inspect payload .payload, .ok traits⟩ :: k ++ [])
      (.active waiting (cycle m (.halted o form) (.send v))) := .of_comes hcomes (.here _)
  rwa [List.append_nil] at hgoes

/-- A program that `o` yields and that is evaluated. -/
lemma called_goes {q : V} {traits : Traits} {T : Unfolding V} {i : History V E}
    (hkind : traits.kind = .ok .nested) (hT : Evaluates m q T i) :
    (Run.active waiting (afterSignal m o form (.yields q))).Goes m
      ([⟨.inspect q .payload, .ok traits⟩, ⟨.due, .goOn⟩, ⟨.report (.nested m q), none⟩] ++ i)
      (.active waiting (cycle m (.halted o form) (.send T.value))) := by
  have hcomes : (afterSignal m o form (.yields q)).Comes
      [⟨.inspect q .payload, .ok traits⟩, ⟨.due, .goOn⟩, ⟨.report (.nested m q), none⟩]
      (.enter (.halted o form) q : Verdict V E) :=
    (afterSignal_yields (by exact trivial)).2 ⟨traits, .nested, _, hkind, rfl,
      (settle_comes (by exact trivial) (by simp [Exchange.Unstopped])).2 ⟨rfl, rfl⟩⟩
  exact .of_comes hcomes (hT.goes (.halted o form :: waiting))

variable [DecidableEq V]

/-- From where `p` is to be sent `u` one comes to where `o` is to be sent `value`, after `o` has
forwarded whatever `p` asks for. -/
def Host.Forwards (host : Host V E σ) (R : σ → σ → Prop) (m : Manner) (o p : V) (form : Form)
    (d : Delegate (StateM σ) V E V) (ignored : E) (waiting : List (Level V)) (u value : V) (t s' : σ) :
    Prop :=
  ∃ h t', R s' t' ∧
    (Run.active waiting (afterSignal m o form (host.forwarded o p d u t).1)).Goes m h
      (.active waiting (afterSignal m o form (host (.resume .sync o (.send value)) t').1)) ∧
    (host.delegating o d ignored).Answers (host.forwarded o p d u t).2 h
      ((host (.resume .sync o (.send value)) t').2, .outside [])

/-- One payload that `p` yields and `o` forwards, and then the rest. -/
lemma Host.Hands.forwards_round (hhost : host.Hands R p d) (hform : form.via = .sync)
    {payload v value : V} {k h : History V E}
    (hround : (Run.active waiting (afterSignal m o form (.yields payload))).Goes m k
      (.active waiting (cycle m (.halted o form) (.send v))))
    (hk : ∀ x ∈ k, ¬x.request.Drives o) (hst : R s t)
    (hs : host.Answers s (⟨.resume .sync p (.send u), .yields payload⟩ :: (k ++ h)) s')
    (hrest : ∀ {s t}, R s t → host.Answers s h s' →
      host.Forwards R m o p form d ignored waiting v value t s') :
    host.Forwards R m o p form d ignored waiting u value t s' := by
  obtain ⟨hyield, hs⟩ := hs
  obtain ⟨s₁, hsk, hsh⟩ := hs.split
  obtain ⟨t₁, hst₁, hforward⟩ := hhost.forwarded hst u
  rw [← hyield] at hforward
  obtain ⟨t₂, hst₂, htk⟩ := hhost.answers_apart hk hst₁ hsk (.inside p [])
  obtain ⟨h', t', hR, hgoes, hans⟩ := hrest hst₂ hsh
  have hcycle : (Run.active waiting (cycle m (.halted o form) (.send v))).Goes m
      (⟨.resume .sync o (.send v), (host.forwarded o p d v t₂).1⟩ :: h')
      (.active waiting (afterSignal m o form (host (.resume .sync o (.send value)) t').1)) := by
    rw [cycle_send (.inl rfl), hform]
    exact .answered _ hgoes
  refine ⟨k ++ ⟨.resume .sync o (.send v), (host.forwarded o p d v t₂).1⟩ :: h', t', hR, ?_,
    ?_⟩
  · rw [hforward]
    exact hround.append hcycle
  · rw [hforward]
    refine htk.append ⟨?_, ?_⟩
    · rw [delegating_inside]
    · rw [delegating_inside]
      exact hans

/-- What `p` comes to while `o` forwards its payloads is what it comes to by itself. -/
lemma Unfolds.forwards {form' : Form} {T : Unfolding V} {i : History V E}
    (hT : Unfolds m p form' u T i) (hhost : host.Hands R p d) (hform : form.via = .sync)
    (hform' : form'.via = .sync) (hreturns : T.Returns) (hi : ∀ x ∈ i, ¬x.request.Drives o)
    (hst : R s t) (hs : host.Answers s i s') :
    host.Forwards R m o p form d ignored waiting u T.value t s' := by
  induction hT generalizing s t with
  | @ends p form' u value closing hclose =>
    obtain rfl := ended_close_comes hform' hclose
    unfold ending at hs
    rw [hform'] at hs
    obtain ⟨hend, -, -, rfl⟩ := hs
    have hvalue : (Unfolding.ends (form'.via.value value)).value = value := by
      rw [hform']
      rfl
    rw [hvalue]
    obtain ⟨t₁, hst₁, hforward⟩ := hhost.forwarded (o := o) hst u
    rw [← hend] at hforward
    -- The report and the closing that `o` saves leave no trace.
    have hreport := hhost.reports (.finished m p form') (host (.resume .sync p (.send u)) s).2
    have hclosed := (hhost.same (.close .sync p) hreport).2
    have hR := hhost.equiv.trans hclosed (hhost.equiv.trans (hhost.ended hend.symm) hst₁)
    refine ⟨[], t₁, hR, ?_, ?_⟩
    · rw [hforward]
      exact .here _
    · rw [hforward]
      rfl
  | completes => exact hreturns.elim
  | @service p form' u token name found traits rest h hkind _ ih =>
    unfold serving at hs
    rw [hform'] at hs
    have hsettle : (settle m (.halted o form) token .service).Comes
        [⟨.due, .goOn⟩, ⟨.nameOf token, .ok name⟩, ⟨.find name, .found found⟩,
          ⟨.report (.resolved name), none⟩]
        (.again (.halted o form) (.send found) : Verdict V E) :=
      (settle_comes (by exact trivial) (by simp [Exchange.Unstopped])).2 ⟨name, found, rfl, rfl⟩
    exact hhost.forwards_round hform (answered_goes hkind hsettle) (by simp [Request.Drives]) hst hs
      fun hst hs => ih hhost hform' hreturns (fun x hx => hi x (List.mem_append_right _ hx)) hst hs
  | @passes p form' u payload traits rest h hkind _ ih =>
    unfold passing at hs
    rw [hform'] at hs
    have hsettle : (settle m (.halted o form) payload .passthrough).Comes
        [⟨.due, .goOn⟩, ⟨.report (.passing payload), none⟩]
        (.again (.halted o form) (.send payload) : Verdict V E) :=
      (settle_comes (by exact trivial) (by simp [Exchange.Unstopped])).2 ⟨rfl, rfl⟩
    exact hhost.forwards_round hform (answered_goes hkind hsettle) (by simp [Request.Drives]) hst hs
      fun hst hs => ih hhost hform' hreturns (fun x hx => hi x (List.mem_append_right _ hx)) hst hs
  | @nested p form' form'' u q traits traits' inner rest i h hkind hform'' hinner _ _ ih =>
    unfold nesting at hs
    rw [hform', ← List.append_assoc] at hs
    have hinner' : Evaluates m q inner (accepting q traits' ++ i) :=
      ⟨traits', form'', i, rfl, hform'', hinner⟩
    have hapart : ∀ x ∈ accepting q traits' ++ i, ¬x.request.Drives o := fun x hx =>
      hi x (List.mem_append_right _ (List.mem_append_left _ hx))
    refine hhost.forwards_round hform (called_goes hkind hinner') ?_ hst ?_
      fun hst hs => ih hhost hform' hreturns (fun x hx => hi x ?_) hst hs
    · simpa [Request.Drives] using hapart
    · simpa using hs
    · exact List.mem_append_right _ (List.mem_append_right _ hx)

end

/-! ### On record -/

/-- What is resumed, with the responses, and what is looked up, with what comes of that. -/
def History.dealings (h : History V E) : History V E :=
  h.filter fun x => match x.request with
    | .resume .. => true
    | .find _ => true
    | _ => false

lemma dealings_append (h h' : History V E) :
    (h ++ h').dealings = h.dealings ++ h'.dealings := List.filter_append h h'

/-- Puts down what is done to the program that is delegated to. -/
def Delegate.recorded (d : Delegate (StateM σ) V E V) :
    Delegate (StateM (σ × History V E)) V E V where
  make p s := ((d.make p s.1).1, (d.make p s.1).2, s.2)
  resume p how s := ((d.resume p how s.1).1, (d.resume p how s.1).2,
    s.2 ++ [⟨.resume .sync p how, (d.resume p how s.1).1.1⟩])
  close p s := ((d.close p s.1).1, (d.close p s.1).2,
    s.2 ++ [⟨.close .sync p, (d.close p s.1).1⟩])

/-- Nor can anybody tell from what was dealt with. -/
lemma Host.Hands.recorded {host : Host V E σ} {R : σ → σ → Prop} {p : V}
    {d : Delegate (StateM σ) V E V} (hhost : host.Hands R p d) :
    host.recorded.Hands (fun x y => R x.1 y.1 ∧ y.2.dealings = x.2.dealings) p d.recorded where
  equiv := {
    refl x := ⟨hhost.equiv.refl x.1, rfl⟩
    symm h := ⟨hhost.equiv.symm h.1, h.2.symm⟩
    trans h h' := ⟨hhost.equiv.trans h.1 h'.1, h'.2.trans h.2⟩ }
  same {x y} q h := by
    obtain ⟨ha, hR⟩ := hhost.same q h.1
    refine ⟨ha, hR, ?_⟩
    simp only [Host.recorded]
    rw [dealings_append, dealings_append, h.2, ha]
  looks role x := ⟨hhost.looks role x.1, by simp [Host.recorded, History.dealings]⟩
  starts x := ⟨hhost.starts x.1, by simp [Host.recorded, History.dealings]⟩
  waits x := ⟨hhost.waits x.1, by simp [Host.recorded, History.dealings]⟩
  reports r x := ⟨hhost.reports r x.1, by simp [Host.recorded, History.dealings]⟩
  iterates x := ⟨(hhost.iterates x.1).1, (hhost.iterates x.1).2, rfl⟩
  heedless v x := by
    obtain ⟨hd, hR⟩ := hhost.heedless v x.1
    refine ⟨hd, hR, ?_⟩
    simp only [Host.recorded, Delegate.recorded, hd]
  ended hx := ⟨hhost.ended hx, by simp [Host.recorded, History.dealings]⟩

/-! ### A program that is yielded -/

section

variable [ValueLike V] [ErrorLike E]

/-- A run of `q` up to where `o`, which has yielded the synchronous program `p`, is to be sent the
value that `p` has returned. -/
structure Nesting (E : Type) [ErrorLike E] (m : Manner) (q o p : V) where
  before : History V E
  waiting : List (Level V)
  /-- The level at which `o` is driven, and what it is sent for yielding `p`. -/
  level : Level V
  form : Form
  sent : V
  /-- What `p` shows as a payload, and then as a program. -/
  traits : Traits
  taken : Traits
  inner : Form
  tree : Unfolding V
  within : History V E
  reaches : (Run.start m q).Goes m before (.active waiting (cycle m level (.send sent)))
  awaits : level.Awaits o form sent
  outer_sync : form.via = .sync
  unclosed : ∀ x ∈ before, x.request ≠ .close .sync o
  nested : traits.kind = .ok .nested
  accepted : m.accept taken = .ok inner
  inner_sync : inner.via = .sync
  unfolds : Unfolds m p inner ValueLike.nothing tree within
  returns : tree.Returns
  /-- Nobody else resumes or closes `o` meanwhile. -/
  apart : ∀ x ∈ within, ¬x.request.Drives o

variable {m : Manner} {q o p : V}

namespace Nesting

/-- All the exchanges of the run. -/
def history (N : Nesting E m q o p) : History V E :=
  N.before ++ (nesting m o N.form N.sent p N.traits ++ (accepting p N.taken ++ N.within))

lemma goes (N : Nesting E m q o p) : (Run.start m q).Goes m N.history
    (.active N.waiting (cycle m (.halted o N.form) (.send N.tree.value))) := by
  have hyields : (Run.active N.waiting (cycle m N.level (.send N.sent))).Goes m
      (nesting m o N.form N.sent p N.traits ++ (accepting p N.taken ++ N.within))
      (.active N.waiting (cycle m (.halted o N.form) (.send N.tree.value))) := by
    rw [cycle_send N.awaits]
    exact .answered _ (called_goes N.nested ⟨N.taken, N.inner, N.within, rfl, N.accepted, N.unfolds⟩)
  exact N.reaches.append hyields

/-- The program `o` is sent what `p` has returned. -/
lemma goes_on (N : Nesting E m q o p) (a : Signal V E) : (Run.start m q).Goes m
    (N.history ++ [⟨.resume .sync o (.send N.tree.value), a⟩])
    (.active N.waiting (afterSignal m o N.form a)) := by
  refine N.goes.append ?_
  rw [cycle_send (.inl rfl), N.outer_sync]
  exact .answered (q := .resume .sync o (.send N.tree.value)) a (.here _)

variable {host : Host V E σ} {s s' : σ}

lemma answers_on (N : Nesting E m q o p) (hs : host.Answers s N.history s') :
    host.Answers s (N.history ++ [⟨.resume .sync o (.send N.tree.value),
      (host (.resume .sync o (.send N.tree.value)) s').1⟩])
      (host (.resume .sync o (.send N.tree.value)) s').2 := hs.append ⟨rfl, rfl⟩

/-- In every finished run `o` is sent what `p` has returned. -/
lemma recorded (N : Nesting E m q o p) (hs : host.Answers s N.history s') {fuel : ℕ}
    {x : Except E V} {z : σ × History V E}
    (hc : (Run.start m q).conduct m host.recorded fuel (s, []) = (some x, z)) :
    ∃ a rest, z.2 = N.history ++ ⟨.resume .sync o (.send N.tree.value), a⟩ :: rest := by
  obtain ⟨fuel', hc'⟩ := ((N.goes_on _).conduct_iff ((N.answers_on hs).recorded [])).1 ⟨fuel, hc⟩
  obtain ⟨h, _, hz, -⟩ := Run.conduct_recorded hc'
  exact ⟨_, h, by simpa using hz⟩

variable [DecidableEq V] {R : σ → σ → Prop} {d : Delegate (StateM σ) V E V}

/-- Where `o` delegates to `p` it comes to be sent the same. -/
lemma delegated (N : Nesting E m q o p) (hhost : host.Hands R p d)
    (hs : host.Answers s N.history s') (ignored : E) : ∃ h t, R s' t ∧
      (Run.start m q).Goes m h (.active N.waiting (afterSignal m o N.form
        (host (.resume .sync o (.send N.tree.value)) t).1)) ∧
      (host.delegating o d ignored).Answers
        (s, .outside [N.before.suspensions o]) h
        ((host (.resume .sync o (.send N.tree.value)) t).2, .outside []) := by
  obtain ⟨s₁, hbefore, hmiddle⟩ := hs.split
  obtain ⟨t₁, hst₁, ht₁⟩ := hhost.answers_before N.unclosed
    (hhost.equiv.refl s) hbefore 0
  rw [Nat.zero_add] at ht₁
  unfold nesting at hmiddle
  rw [N.outer_sync] at hmiddle
  obtain ⟨hyields, -, -, -, -, -, hwithin⟩ := hmiddle
  -- Whatever is asked only because `p` is run by a call of its own leaves no trace.
  obtain ⟨hsame, hst₂⟩ := hhost.same (.resume .sync o (.send N.sent)) hst₁
  have hst₃ := hhost.silent (hhost.starts _) <| hhost.silent (hhost.looks .program _) <|
    hhost.silent (hhost.reports (.nested m p) _) <| hhost.silent (hhost.waits _) <|
    hhost.silent (hhost.looks .payload _) hst₂
  obtain ⟨t₂, ht₂, hpoint⟩ := hhost.delegating_at_point ignored (hsame.trans hyields.symm)
  have hforwards : host.Forwards R m o p N.form d ignored N.waiting ValueLike.nothing
      N.tree.value t₂ s' :=
    N.unfolds.forwards hhost N.outer_sync N.inner_sync N.returns N.apart
      (hhost.equiv.trans hst₃ ht₂) hwithin
  obtain ⟨h, t, hst, hgoes, ht⟩ := hforwards
  refine ⟨N.before ++ ⟨.resume .sync o (.send N.sent),
    (host.forwarded o p d ValueLike.nothing t₂).1⟩ :: h, t, hst, ?_, ?_⟩
  · refine N.reaches.append ?_
    rw [cycle_send N.awaits, N.outer_sync]
    exact .answered (q := .resume .sync o (.send N.sent)) _ hgoes
  · refine ht₁.append ⟨?_, ?_⟩
    · rw [hpoint]
    · rw [hpoint]
      exact ht

/-- Delegating to `p` takes the run the same way as yielding it. -/
lemma sameCourse (N : Nesting E m q o p) (hhost : host.Hands R p d)
    (hs : host.Answers s N.history s') (ignored : E) :
    (Run.start m q).SameCourse m host (host.delegating o d ignored)
      (fun s t => R s t.1) s (s, .outside [N.before.suspensions o]) := by
  obtain ⟨h, t, hst, hgoes, ht⟩ := N.delegated hhost hs ignored
  obtain ⟨hsame, hst'⟩ := hhost.same (.resume .sync o (.send N.tree.value)) hst
  rw [hsame] at hgoes
  exact (hhost.course_idle _ hst').of_goes (N.goes_on _) (N.answers_on hs) hgoes ht

end Nesting

/-- **Delegating agrees with yielding.** Let `o` be a program in a host.

* If it is a generator, it delegates to tokens as it yields them, at any of its suspensions. It gives
  the same answers however it is resumed and closed, as long as no end signal and nothing that is no
  error is thrown into it, and the surroundings are left the same; so with either driver a run comes
  to the same result by the same exchanges, whatever is found or stopped.
* If it yields a program `p` that returns, it may delegate to `p` instead: a run comes to the same
  result, and on the way the same programs are resumed in the same order with the same responses and
  the same names are looked up, and `o` is sent what `p` has returned. This is so if nobody can tell
  whether `p` is run by a call of its own; so `p` is to take no notice of an error that `o` is
  handling meanwhile, and to leave `o` alone. -/
theorem delegating_agrees_with_yielding [DecidableEq V] (host : Host V E σ) (o : V) (ignored : E) :
    (host.Generator o ignored → ErrorLike.nature (ErrorLike.exit : E) = .closing →
      ∀ out : E → E, (∀ e, Passes e → out e = e) → ∀ (points : List ℕ) (s : σ),
        (∀ h s', (∀ x ∈ h, x.request.Passes o) → (host.Answers s h s' ↔ ∃ stage,
          (host.delegating o (.token out) ignored).Answers (s, .outside points) h (s', stage))) ∧
        (host.Considerate → ∀ (m : Manner) (q : V),
          (∀ h r s', (Run.start m q).Goes m h r → (host.Answers s h s' ↔ ∃ stage,
            (host.delegating o (.token out) ignored).Answers (s, .outside points) h (s', stage))) ∧
          (Run.start m q).SameCourse m host (host.delegating o (.token out) ignored)
            (fun s t => t.1 = s) s (s, .outside points))) ∧
    ∀ (m : Manner) (q p : V) (N : Nesting E m q o p) (d : Delegate (StateM σ) V E V)
      (R : σ → σ → Prop), host.Hands R p d → ∀ s s', host.Answers s N.history s' →
        (Run.start m q).SameCourse m host.recorded
          (host.recorded.delegating o d.recorded ignored)
          (fun x y => (R x.1 y.1.1 ∧ y.1.2.dealings = x.2.dealings) ∧ ∃ a rest,
            x.2 = N.history ++ ⟨.resume .sync o (.send N.tree.value), a⟩ :: rest)
          (s, []) ((s, []), .outside [N.before.suspensions o]) := by
  constructor
  · intro hgenerator hexit out hout points s
    have hiff : ∀ h s', (∀ x ∈ h, x.request.Passes o) → (host.Answers s h s' ↔ ∃ stage,
        (host.delegating o (.token out) ignored).Answers (s, .outside points) h (s', stage)) :=
      fun h s' hh => hgenerator.token_answers_iff hexit hout points hh
    refine ⟨hiff, fun hdue m q => ⟨fun h r s' hg => ?_, ?_⟩⟩
    · constructor
      · intro hs
        exact (hiff h s' (hdue.passes hs hg o)).1 hs
      · rintro ⟨stage, ht⟩
        exact (hiff h s' ((hdue.delegating _).passes ht hg o)).2 ⟨stage, ht⟩
    · exact hgenerator.token_course hexit hout hdue q s points
  · intro m q p N d R hhost s s' hs
    exact (N.sameCourse hhost.recorded (hs.recorded []) ignored).and_left
      fun fuel x z hc => N.recorded hs hc

end

/-! ### A program that asks for a service -/

section

open Script

/-- A run that begins with `o`, which at once yields the program `p`. -/
def yieldedAtOnce {o p : Value} {T : Unfolding Value} {h : History Value Fault}
    (hT : Unfolds .blocking p (.direct .sync) .none T h) (hreturns : T.Returns)
    (hh : ∀ x ∈ h, ¬x.request.Drives o) : Nesting Fault .blocking o o p where
  before := takenUp o
  waiting := []
  level := ⟨o, .inl .sync⟩
  form := .direct .sync
  sent := .none
  traits := synchronous
  taken := synchronous
  inner := .direct .sync
  tree := T
  within := h
  reaches := .of_comes (takenUp_comes o) (.here _)
  awaits := .inl rfl
  outer_sync := rfl
  unclosed := by simp [takenUp]
  nested := rfl
  accepted := rfl
  inner_sync := rfl
  unfolds := hT
  returns := hreturns
  apart := hh

/-- Surroundings in which the program `0` yields the program `1` and ends with what it is sent, and
`1` does so with the token `2`. The state is how often each was resumed. -/
def asking : Host Value Fault (ℕ × ℕ)
  | .inspect (.object 2) .payload, s => (.ok ⟨true, false, false, false, false, false⟩, s)
  | .inspect _ _, s => (.ok synchronous, s)
  | .resume _ (.object 0) (.send _), (0, b) => (.yields (.object 1), (1, b))
  | .resume _ (.object 0) (.send v), (a, b) => (.ends v, (a + 1, b))
  | .resume _ (.object 1) (.send _), (a, 0) => (.yields (.object 2), (a, 1))
  | .resume _ (.object 1) (.send v), (a, b) => (.ends v, (a, b + 1))
  | .resume _ _ (.send v), s => (.ends v, s)
  | .resume _ _ (.throw e), s => (.raises e, s)
  | .find _, s => (.found (.object 7), s)
  | .due, s => (.goOn, s)
  | .nameOf token, s => (.ok token, s)
  | .valueOf completion, s => (.ok completion, s)
  | .build .., s => (.ok .none, s)
  | .complain _, s => (.spent, s)
  | .handle _, s | .handled, s => ((), s)
  | .barred, s | .close .., s | .report _, s | .discard _, s => (none, s)

/-- The program `1` asks for the service, and ends with it. -/
lemma asking_unfolds : Unfolds .blocking (.object 1 : Value) (.direct .sync) .none
    (.service (.object 2) (.object 2) (.object 7) (.ends (.object 7)))
    (serving (.object 1) (.direct .sync) .none (.object 2) (.object 2) (.object 7)
      ⟨true, false, false, false, false, false⟩ ++
      (ending .blocking (.object 1) (.direct .sync) (.object 7) (.object 7) ++
        [⟨.close .sync (.object 1), (none : Option Fault)⟩])) :=
  .service rfl (.ends (.object 7 : Value) ⟨none, [], rfl, rfl, rfl⟩)

/-- The token may be delegated to, and so may the program that asks for it, even while an error is
being handled. -/
theorem service_is_forwarded :
    (asking.Generator (.object 1) .spent ∧ asking.Considerate ∧
      (Run.start .blocking (.object 0) : Run Value Fault).SameCourse .blocking asking
        (asking.delegating (.object 1) (.token id) .spent) (fun s t => t.1 = s) (0, 0)
        ((0, 0), .outside [0])) ∧
    asking.Hands (· = ·) (.object 1) (.amid asking (.raised .ordinary 3)) ∧
      ∃ N : Nesting Fault .blocking (.object 0 : Value) (.object 0) (.object 1),
        asking.Answers (0, 0) N.history (1, 2) ∧
        ∃ fuel k stage, (Run.start .blocking (.object 0) : Run Value Fault).conduct .blocking
          (asking.recorded.delegating (.object 0)
            (Delegate.recorded (.amid asking (.raised .ordinary 3))) .spent) fuel
          (((0, 0), []), .outside [0]) = (some (.ok (.object 7)), (((2, 2), k), stage)) := by
  have hgenerator : asking.Generator (.object 1) .spent := fun _ => rfl
  have hconsiderate : asking.Considerate := fun _ _ h => nomatch h
  have hhands : asking.Hands (· = ·) (.object 1) (.amid asking (.raised .ordinary 3)) := {
    equiv := eq_equivalence
    same q h := by
      obtain rfl := h
      exact ⟨rfl, rfl⟩
    looks role s := by cases role <;> rfl
    starts s := rfl
    waits s := rfl
    reports r s := rfl
    iterates s := ⟨rfl, rfl⟩
    heedless v s := ⟨rfl, rfl⟩
    ended _ := rfl }
  let N := yieldedAtOnce (o := .object 0) asking_unfolds trivial
    (by simp [serving, ending, Request.Drives, Form.via])
  have hanswers : asking.Answers (0, 0) N.history (1, 2) :=
    ⟨rfl, rfl, rfl, rfl, rfl, rfl, rfl, rfl, rfl, rfl, rfl, rfl, rfl, rfl, rfl, rfl, rfl, rfl⟩
  obtain ⟨htokens, -⟩ := delegating_agrees_with_yielding asking (.object 1) .spent
  obtain ⟨-, hprograms⟩ := delegating_agrees_with_yielding asking (.object 0) .spent
  have htoken := ((htokens hgenerator rfl id (fun _ _ => rfl) [0] (0, 0)).2 hconsiderate .blocking
    (.object 0)).2
  let closing : History Value Fault :=
    [⟨.report (.finished .blocking (.object 0) (.direct .sync)), none⟩,
      ⟨.close .sync (.object 0), none⟩]
  have hend : (afterSignal .blocking (.object 0) (.direct .sync) (.ends (.object 7))).Comes closing
      (.leave (.ok (.object 7))) := ⟨none, _, rfl, none, [], rfl, rfl, rfl⟩
  have hgoes := (N.goes_on (.ends (.object 7))).append
    (.of_comes hend (.here (.over (.ok (.object 7)) : Run Value Fault)))
  have hall := (N.answers_on hanswers).append
    (show asking.Answers (2, 2) (closing ++ []) (2, 2) from ⟨rfl, rfl, rfl⟩)
  obtain ⟨fuel, hrun⟩ := Run.conduct_of_goes hgoes (hall.recorded [])
  obtain ⟨fuel', ⟨⟨t, k⟩, stage⟩, hc, ⟨hstate, -⟩, -⟩ := (hprograms .blocking (.object 0) (.object 1) N
    _ _ hhands (0, 0) (1, 2) hanswers).1 fuel _ _ hrun
  obtain rfl : (2, 2) = t := hstate
  exact ⟨⟨hgenerator, hconsiderate, htoken⟩, hhands, N, hanswers, fuel', k, stage, hc⟩

/-! ### Programs that take notice -/

/-- Surroundings in which the program `0` yields the program `1` and ends with what it is sent, and
`1` ends with `5`, or with `4` while an error is being handled. The generator `3` yields the token
`2`, and `6` for every error that is raised there. -/
def minding : Host Value Fault (ℕ × Bool)
  | .resume _ (.object 0) (.send _), (0, b) => (.yields (.object 1), (1, b))
  | .resume _ (.object 0) (.send v), s => (.ends v, s)
  | .resume _ (.object 1) (.send _), (n, b) => (.ends (.object (if b then 4 else 5)), (n, b))
  | .resume _ _ (.send _), s => (.yields (.object 2), s)
  | .resume _ _ (.throw (.improper v)), s => (.raises (.improper v), s)
  | .resume _ _ (.throw _), s => (.yields (.object 6), s)
  | .handle _, (n, _) => ((), (n, true))
  | .handled, (n, _) => ((), (n, false))
  | .inspect _ _, s => (.ok synchronous, s)
  | .find _, s => (.found .none, s)
  | .due, s => (.goOn, s)
  | .nameOf token, s => (.ok token, s)
  | .valueOf completion, s => (.ok completion, s)
  | .build .., s => (.ok .none, s)
  | .complain _, s => (.spent, s)
  | .barred, s | .close .., s | .report _, s | .discard _, s => (none, s)

/-- What comes out of a generator into which something is thrown: for what is no error that is a
complaint. -/
def complained : Fault → Fault
  | .improper _ => .raised .ordinary 8
  | e => e

/-- A program that returns either way comes to another value if it is delegated to while an error is
being handled. What is no error is refused by a generator that yields a token, and raised in one that
delegates to it. -/
theorem delegating_is_not_always_yielding :
    (∃ N : Nesting Fault .blocking (.object 0 : Value) (.object 0) (.object 1),
      minding.Answers (0, false) N.history (1, false)) ∧
    ((Run.start .blocking (.object 0) : Run Value Fault).conduct .blocking minding 30
      (0, false)).1 = some (.ok (.object 5)) ∧
    ((Run.start .blocking (.object 0) : Run Value Fault).conduct .blocking
      (minding.delegating (.object 0) (.amid minding (.raised .ordinary 9)) .spent) 30
      ((0, false), .outside [0])).1 = some (.ok (.object 4)) ∧
    minding.Answers (0, false) [⟨.resume .sync (.object 3) (.send .none), .yields (.object 2)⟩,
      ⟨.resume .sync (.object 3) (.throw (.improper .none)), .raises (.improper .none)⟩]
      (0, false) ∧
    ∃ stage, (minding.delegating (.object 3) (.token complained) .spent).Answers
      ((0, false), .outside [0])
      [⟨.resume .sync (.object 3) (.send .none), .yields (.object 2)⟩,
        ⟨.resume .sync (.object 3) (.throw (.improper .none)), .yields (.object 6)⟩]
      ((0, false), stage) := by
  have hT : Unfolds .blocking (.object 1 : Value) (.direct .sync) .none (.ends (.object 5))
      (ending .blocking (.object 1) (.direct .sync) .none (.object 5) ++
        [⟨.close .sync (.object 1), (none : Option Fault)⟩]) :=
    .ends (.object 5 : Value) ⟨none, [], rfl, rfl, rfl⟩
  let N := yieldedAtOnce (o := .object 0) hT trivial (by simp [ending, Request.Drives, Form.via])
  have hanswers : minding.Answers (0, false) N.history (1, false) :=
    ⟨rfl, rfl, rfl, rfl, rfl, rfl, rfl, rfl, rfl, rfl, rfl, rfl⟩
  exact ⟨⟨N, hanswers⟩, rfl, rfl, ⟨rfl, rfl, rfl⟩, _, rfl, rfl, rfl⟩

end

end Provision
