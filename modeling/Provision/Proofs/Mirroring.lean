import Provision.Proofs.Agreement

/-!
Mirroring: a lifted program does what the program beneath does.

`Lifting.operate` performs a row of sends and throws on a lifted program, `operateDirectly` performs
them on the program itself, both up to the first after which it is not suspended. The lifted program
asks the same of the program beneath, with an error that is thrown being handled meanwhile
(`mirrored`), and what it shows is the `mirror` of the responses (`Lifting.operate_comes`).

So the two part only if the program takes notice of the error that is being handled:
`lifting_mirrors_program` says when they do not, and `bare_raise_shows_lifting` is a program that
does. -/

namespace Provision

variable {V E α σ : Type}

/-! ### Talks with one host -/

/-- A talk comes to one value in a history. -/
lemma Talk.Comes.unique {t : Talk V E α} {h : History V E} {a a' : α} (ht : t.Comes h a)
    (ht' : t.Comes h a') : a' = a := by
  induction t generalizing h with
  | done b =>
    obtain ⟨-, rfl⟩ := ht
    exact ht'.2
  | ask q next ih =>
    obtain ⟨b, k, rfl, hn⟩ := ht
    obtain ⟨b', k', hk, hn'⟩ := ht'
    cases hk
    exact ih b hn hn'

/-- With one host from one state a talk has one history. -/
lemma Host.Answers.unique {host : Host V E σ} {t : Talk V E α} {h h' : History V E} {a a' : α}
    {s s₁ s₂ : σ} (ht : t.Comes h a) (hs : host.Answers s h s₁) (ht' : t.Comes h' a')
    (hs' : host.Answers s h' s₂) : h' = h := by
  induction t generalizing h h' s with
  | done b => rw [ht.1, ht'.1]
  | ask q next ih =>
    obtain ⟨b, k, rfl, hn⟩ := ht
    obtain ⟨b', k', rfl, hn'⟩ := ht'
    obtain ⟨rfl, hrest⟩ := Host.answers_cons.1 hs
    obtain ⟨rfl, hrest'⟩ := Host.answers_cons.1 hs'
    rw [ih _ hn hrest hn' hrest']

/-! ### Rows of operations -/

/-- Performs operations on a program, up to the first after which it is not suspended. -/
def operateDirectly (p : V) : List (Resumption V E) → Talk V E (List (Signal V E))
  | [] => .done []
  | how :: rest => .ask (.resume .sync p how) fun
    | .yields payload => (operateDirectly p rest).bind fun signals =>
      .done (.yields payload :: signals)
    | .ends value => .done [.ends value]
    | .raises e => .done [.raises e]

variable [ErrorLike E]

/-- Performs operations on the lifted form of a program, up to the first after which it is not
suspended with a payload. -/
def Lifting.operate [ValueLike V] (p : V) :
    Lifting.Stage → List (Resumption V E) → Talk V E (Lifting.Stage × List (Lifting.Step V E))
  | stage, [] => .done (stage, [])
  | stage, how :: rest => (Lifting.resume p stage how).bind fun
    | (stage, .yields payload) => (Lifting.operate p stage rest).bind fun o =>
      .done (o.1, .yields payload :: o.2)
    | (stage, step) => .done (stage, [step])

/-- What a lifted program has to show for the responses from beneath, and where it stands then. -/
def Lifting.mirror : List (Signal V E) → Lifting.Stage × List (Lifting.Step V E)
  | [] => (.waiting, [])
  | .yields payload :: signals => ((mirror signals).1, .yields payload :: (mirror signals).2)
  | .ends value :: _ => (.delivering, [.delivers value])
  | .raises e :: _ => (.finished, [.raises (Boundary.lifting.cross e)])

/-- The exchanges of a lifted program in the place of one with the program itself: an error that is
thrown is being handled meanwhile. -/
def Exchange.mirrored : Exchange V E → History V E
  | ⟨.resume via p (.throw e), s⟩ =>
    [⟨.handle e, ()⟩, ⟨.resume via p (.throw e), s⟩, ⟨.handled, ()⟩]
  | x => [x]

def mirrored (h : History V E) : History V E := h.flatMap Exchange.mirrored

/-- An operation by which the program is neither closed nor handed anything but an error. -/
def Resumption.Plain : Resumption V E → Prop
  | .send _ => True
  | .throw e => ErrorLike.nature e ≠ .closing ∧ ErrorLike.nature e ≠ .improper

section

omit [ErrorLike E]

/-- What is done to a program directly are the operations of the row. -/
lemma operateDirectly_history {p : V} {ops : List (Resumption V E)} {h : History V E}
    {signals : List (Signal V E)} (hc : (operateDirectly p ops).Comes h signals) :
    h = (ops.zip signals).map fun x => ⟨.resume .sync p x.1, x.2⟩ := by
  induction ops generalizing h signals with
  | nil => exact hc.1
  | cons how rest ih =>
    obtain ⟨s, k, rfl, hn⟩ := hc
    cases s with
    | yields payload =>
      obtain ⟨h₁, signals', h₂, rfl, hrest, rfl, rfl⟩ := (Talk.comes_bind _).1 hn
      rw [ih hrest, List.append_nil]
      rfl
    | ends value =>
      obtain ⟨rfl, rfl⟩ := hn
      simp
    | raises e =>
      obtain ⟨rfl, rfl⟩ := hn
      simp

end

section

variable [ValueLike V] {p : V}

/-- Resuming a suspended lifted program resumes the program beneath. -/
lemma Lifting.resume_waiting_comes {how : Resumption V E} (hh : how.Plain) {h : History V E}
    {o : Lifting.Stage × Lifting.Step V E} : (Lifting.resume p .waiting how).Comes h o ↔
      ∃ s, h = Exchange.mirrored ⟨.resume .sync p how, s⟩ ∧ o = Lifting.follow s := by
  cases how with
  | send v =>
    constructor
    · rintro ⟨s, _, rfl, rfl, rfl⟩
      exact ⟨s, rfl, rfl⟩
    · rintro ⟨s, rfl, rfl⟩
      exact ⟨s, [], rfl, rfl, rfl⟩
  | throw e =>
    have hthrow : (Lifting.resume p .waiting (.throw e) : Talk V E _) =
        Talk.handling e (.ask (.resume .sync p (.throw e)) fun s => .done (Lifting.follow s)) := by
      obtain ⟨hclosing, himproper⟩ := hh
      simp only [Lifting.resume, Lifting.throwOn]
    rw [hthrow]
    constructor
    · rintro ⟨_, _, rfl, hn⟩
      obtain ⟨_, _, _, rfl, ⟨s, _, rfl, rfl, rfl⟩, _, _, rfl, rfl, rfl⟩ := (Talk.comes_bind _).1 hn
      exact ⟨s, rfl, rfl⟩
    · rintro ⟨s, rfl, rfl⟩
      exact ⟨(), _, rfl, (Talk.comes_bind _).2
        ⟨[_], _, [_], rfl, ⟨s, [], rfl, rfl, rfl⟩, (), [], rfl, rfl, rfl⟩⟩

/-- A row of operations on a suspended lifted program is the same row on the program, mirrored. -/
lemma Lifting.operate_waiting_comes {ops : List (Resumption V E)} (hops : ∀ how ∈ ops, how.Plain)
    {h : History V E} {o : Lifting.Stage × List (Lifting.Step V E)} :
    (Lifting.operate p .waiting ops).Comes h o ↔ ∃ signals h₀,
      (operateDirectly p ops).Comes h₀ signals ∧ h = mirrored h₀ ∧ o = Lifting.mirror signals := by
  induction ops generalizing h o with
  | nil =>
    constructor
    · rintro ⟨rfl, rfl⟩
      exact ⟨[], [], ⟨rfl, rfl⟩, rfl, rfl⟩
    · rintro ⟨_, _, ⟨rfl, rfl⟩, rfl, rfl⟩
      exact ⟨rfl, rfl⟩
  | cons how rest ih =>
    obtain ⟨hhow, hrest⟩ := List.forall_mem_cons.1 hops
    refine (Talk.comes_bind _).trans ⟨?_, ?_⟩
    · rintro ⟨_, _, h₂, rfl, hresume, hn⟩
      obtain ⟨s, rfl, rfl⟩ := (Lifting.resume_waiting_comes hhow).1 hresume
      cases s with
      | yields payload =>
        obtain ⟨_, o', _, rfl, hoperate, rfl, rfl⟩ := (Talk.comes_bind _).1 hn
        obtain ⟨signals, h₀, hdirect, rfl, rfl⟩ := (ih hrest).1 hoperate
        refine ⟨.yields payload :: signals, ⟨.resume .sync p how, .yields payload⟩ :: h₀, ?_, ?_,
          rfl⟩
        · exact ⟨_, _, rfl, (Talk.comes_bind _).2
            ⟨h₀, signals, [], (List.append_nil h₀).symm, hdirect, rfl, rfl⟩⟩
        · rw [List.append_nil]
          rfl
      | ends value =>
        obtain ⟨rfl, rfl⟩ := hn
        exact ⟨[.ends value], [_], ⟨.ends value, [], rfl, rfl, rfl⟩, rfl, rfl⟩
      | raises e =>
        obtain ⟨rfl, rfl⟩ := hn
        exact ⟨[.raises e], [_], ⟨.raises e, [], rfl, rfl, rfl⟩, rfl, rfl⟩
    · rintro ⟨_, _, ⟨s, _, rfl, hn⟩, rfl, rfl⟩
      refine ⟨Exchange.mirrored ⟨.resume .sync p how, s⟩, Lifting.follow s, ?_⟩
      have hresume := (Lifting.resume_waiting_comes (p := p) hhow).2 ⟨s, rfl, rfl⟩
      cases s with
      | yields payload =>
        obtain ⟨h₀, signals, _, rfl, hdirect, rfl, rfl⟩ := (Talk.comes_bind _).1 hn
        refine ⟨mirrored h₀, ?_, hresume, (Talk.comes_bind _).2
          ⟨mirrored h₀, Lifting.mirror signals, [], (List.append_nil _).symm, ?_, rfl, rfl⟩⟩
        · rw [List.append_nil]
          rfl
        · exact (ih hrest).2 ⟨signals, h₀, hdirect, rfl, rfl⟩
      | ends value =>
        obtain ⟨rfl, rfl⟩ := hn
        exact ⟨[], rfl, hresume, rfl, rfl⟩
      | raises e =>
        obtain ⟨rfl, rfl⟩ := hn
        exact ⟨[], rfl, hresume, rfl, rfl⟩

/-- A lifted program that was not started is resumed like a suspended one by sending nothing. -/
lemma Lifting.operate_unstarted (rest : List (Resumption V E)) :
    Lifting.operate p .unstarted (.send ValueLike.nothing :: rest) =
      Lifting.operate p .waiting (.send ValueLike.nothing :: rest) := rfl

/-- A row of operations on a lifted program, begun by sending nothing, is the same row on the
program, mirrored. -/
lemma Lifting.operate_comes {rest : List (Resumption V E)} (hrest : ∀ how ∈ rest, how.Plain)
    {h : History V E} {o : Lifting.Stage × List (Lifting.Step V E)} :
    (Lifting.operate p .unstarted (.send ValueLike.nothing :: rest)).Comes h o ↔ ∃ signals h₀,
      (operateDirectly p (.send ValueLike.nothing :: rest)).Comes h₀ signals ∧ h = mirrored h₀ ∧
        o = Lifting.mirror signals := by
  rw [Lifting.operate_unstarted]
  have hplain : (Resumption.send ValueLike.nothing : Resumption V E).Plain := trivial
  exact Lifting.operate_waiting_comes (List.forall_mem_cons.2 ⟨hplain, hrest⟩)

end

/-! ### Programs that take no notice -/

/-- A program answers in the same way whatever error is being handled when one is thrown into it.
Related states are those which it cannot tell apart. -/
structure Host.Heedless (host : Host V E σ) (p : V) (R : σ → σ → Prop) : Prop where
  sends {s t : σ} (v : V) : R s t →
    Agree R (host (.resume .sync p (.send v)) s) (host (.resume .sync p (.send v)) t)
  throws {s t : σ} (e : E) : R s t →
    Agree R (host (.resume .sync p (.throw e)) s)
      (host.whileHandling e (.resume .sync p (.throw e)) t)

omit [ErrorLike E] in
/-- Then it answers the mirrored operations as it answers the operations. -/
lemma Host.Heedless.answers {host : Host V E σ} {p : V} {R : σ → σ → Prop}
    (hhost : host.Heedless p R) (ops : List (Resumption V E × Signal V E)) {s s' t : σ}
    (hst : R s t)
    (hs : host.Answers s (ops.map fun x => ⟨.resume .sync p x.1, x.2⟩) s') :
    ∃ t', host.Answers t (mirrored (ops.map fun x => ⟨.resume .sync p x.1, x.2⟩)) t' := by
  induction ops generalizing s t with
  | nil => exact ⟨t, rfl⟩
  | cons x ops ih =>
    obtain ⟨how, signal⟩ := x
    obtain ⟨hsignal, hrest⟩ := hs
    cases how with
    | send v =>
      obtain ⟨ha, hst'⟩ := hhost.sends v hst
      obtain ⟨t', ht'⟩ := ih hst' hrest
      exact ⟨t', hsignal.trans ha.symm, ht'⟩
    | throw e =>
      obtain ⟨ha, hst'⟩ := hhost.throws e hst
      obtain ⟨t', ht'⟩ := ih hst' hrest
      exact ⟨t', rfl, hsignal.trans ha.symm, rfl, ht'⟩

/-! ### The lifted program and the program -/

/-- **A lifted program mirrors the program beneath.** Let a row of operations begin by sending
nothing and go on with sends and throws by which nothing is closed.

* What the lifted program shows are the responses of the program, one for one, and it asks nothing
  but that the same row be performed on the program, while what is thrown is being handled.
* Of an ended program it delivers the value, and then it ends without asking for anything. Of a
  failed one it shows the error itself, unless that is an end signal, and is at its end.
* If the row is performed on the program directly as well, the lifted program shows and asks the
  same exactly if the program answers in the same way while the errors are being handled; it does so
  if it takes no notice of that. -/
theorem lifting_mirrors_program [ValueLike V] (p : V) {rest : List (Resumption V E)}
    (hrest : ∀ how ∈ rest, how.Plain) :
    (∀ h o, (Lifting.operate p .unstarted (.send ValueLike.nothing :: rest)).Comes h o ↔
      ∃ signals : List (Signal V E), ∃ h₀,
        (operateDirectly p (.send ValueLike.nothing :: rest)).Comes h₀ signals ∧
        h₀ = (List.zip (.send ValueLike.nothing :: rest) signals).map
          (fun x => ⟨.resume .sync p x.1, x.2⟩) ∧
        h = mirrored h₀ ∧ o = Lifting.mirror signals) ∧
    (∀ v : V, (Lifting.resume p .delivering (.send v) : Talk V E _) = .done (.finished, .ends)) ∧
    (∀ how : Resumption V E, Lifting.resume p .finished how = .done (.finished, .ends)) ∧
    (∀ e : E, ErrorLike.nature e ≠ .ended → ErrorLike.nature e ≠ .asyncEnded →
      Boundary.lifting.cross e = e) ∧
    (∀ e : E, ErrorLike.nature e = .asyncEnded →
      Boundary.lifting.cross e = ErrorLike.stopped .lifting e) ∧
    ∀ (σ : Type) (host : Host V E σ) (s s' t t' : σ) (h₀ h : History V E)
      (signals : List (Signal V E)) (o : Lifting.Stage × List (Lifting.Step V E)),
      (operateDirectly p (.send ValueLike.nothing :: rest)).Comes h₀ signals →
      host.Answers s h₀ s' →
      (Lifting.operate p .unstarted (.send ValueLike.nothing :: rest)).Comes h o →
      host.Answers t h t' →
      (h = mirrored h₀ ↔ ∃ u, host.Answers t (mirrored h₀) u) ∧
      (h = mirrored h₀ → o = Lifting.mirror signals) ∧
      ∀ R, host.Heedless p R → R s t → h = mirrored h₀ := by
  refine ⟨fun h o => ?_, fun v => rfl, fun how => by cases how <;> rfl,
    fun e => lifting_cross_of_not_ended, fun e he => ?_, ?_⟩
  · rw [Lifting.operate_comes hrest]
    exact exists₂_congr fun signals h₀ => and_congr_right fun hc =>
      ⟨fun ho => ⟨operateDirectly_history hc, ho⟩, fun ho => ho.2⟩
  · simp [Boundary.cross, Boundary.stops, he]
  · intro σ host s s' t t' h₀ h signals o hc hs ho ht
    have hmirrored := (Lifting.operate_comes (p := p) hrest).2 ⟨signals, h₀, hc, rfl, rfl⟩
    have hanswers : (∃ u, host.Answers t (mirrored h₀) u) → h = mirrored h₀ := by
      rintro ⟨u, hu⟩
      exact Host.Answers.unique hmirrored hu ho ht
    refine ⟨⟨?_, hanswers⟩, ?_, fun R hR hst => hanswers ?_⟩
    · rintro rfl
      exact ⟨t', ht⟩
    · rintro rfl
      exact hmirrored.unique ho
    · rw [operateDirectly_history hc] at hs ⊢
      exact hR.answers _ hst hs

/-! ### A program that takes notice -/

section

open Script

/-- A program yields, and an error is thrown into it. -/
def thrownInto (p payload : Value) (e : Fault) (s : Signal Value Fault) : History Value Fault :=
  [⟨.resume .sync p (.send .none), .yields payload⟩, ⟨.resume .sync p (.throw e), s⟩]

lemma thrownInto_comes (p payload : Value) (e : Fault) (s : Signal Value Fault) :
    (operateDirectly p [.send .none, .throw e]).Comes (thrownInto p payload e s)
      [.yields payload, s] := by
  have hthrow : (operateDirectly p [.throw e]).Comes [⟨.resume .sync p (.throw e), s⟩] [s] := by
    cases s <;> exact ⟨_, _, rfl, rfl, rfl⟩
  exact ⟨.yields payload, _, rfl, (Talk.comes_bind _).2 ⟨_, [s], [], rfl, hthrow, rfl, rfl⟩⟩

/-- The case of a program that is stopped by an error and returns: so does its lifted form. -/
theorem lifting_mirrors_return : ∃ h t',
    (Lifting.operate (.object 0) .unstarted [.send .none, .throw (.raised .ordinary 1)]).Comes h
      (.delivering, [.yields .none, .delivers (.object 3)]) ∧
    (stopped fun _ => .ends (.object 3)).Answers [] h t' := by
  have hplain : ∀ how ∈ [(.throw (.raised .ordinary 1) : Resumption Value Fault)], how.Plain := by
    simp [Resumption.Plain, ErrorLike.nature]
  obtain ⟨hcomes, -⟩ := lifting_mirrors_program (.object 0) hplain
  refine ⟨mirrored (thrownInto (.object 0) .none (.raised .ordinary 1) (.ends (.object 3))), [], ?_,
    rfl, rfl, rfl, rfl, rfl⟩
  exact (hcomes _ _).2 ⟨_, _, thrownInto_comes _ _ _ _, rfl, rfl, rfl⟩

/-- A program raises again what is being handled, after an error was thrown into it. By itself it
finds none and fails with an error of its own; its lifted form shows the error that was thrown. -/
theorem bare_raise_shows_lifting : ∃ signals h₀ s' h o t',
    (operateDirectly (.object 0) [.send .none, .throw (.raised .ordinary 1)]).Comes h₀ signals ∧
    (stopped fun s => .raises (s.headD (.raised .ordinary 2))).Answers [] h₀ s' ∧
    (Lifting.operate (.object 0) .unstarted [.send .none, .throw (.raised .ordinary 1)]).Comes h o ∧
    (stopped fun s => .raises (s.headD (.raised .ordinary 2))).Answers [] h t' ∧
    signals = [.yields .none, .raises (.raised .ordinary 2)] ∧
    o = (.finished, [.yields .none, .raises (.raised .ordinary 1)]) ∧
    o ≠ Lifting.mirror signals := by
  have hplain : ∀ how ∈ [(.throw (.raised .ordinary 1) : Resumption Value Fault)], how.Plain := by
    simp [Resumption.Plain, ErrorLike.nature]
  have hlifted := (Lifting.operate_comes hplain).2
    ⟨_, _, thrownInto_comes (.object 0) .none _ (.raises (.raised .ordinary 1)), rfl, rfl⟩
  refine ⟨_, _, [], _, _, [], thrownInto_comes _ .none _ (.raises (.raised .ordinary 2)),
    ⟨rfl, rfl, rfl⟩, hlifted, ⟨rfl, rfl, rfl, rfl, rfl⟩, rfl, rfl, ?_⟩
  simp [Lifting.mirror, Boundary.cross, ErrorLike.nature, Boundary.stops]

end

end Provision
