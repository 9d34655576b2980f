import Provision.Proofs.Discipline
import Provision.Proofs.Mirroring

/-!
Closing: what becomes of the generator beneath when its lifted form is closed.

The lifted form of a generator is resumed any number of times, in any way, and then closed.
`Stance.Moves` says what a generator itself does when it is resumed or closed and nobody else drives
it, and `Lifting.Stage.Over` where it stands beneath every stage of its lifting.

* `Lifting.close_eq_throw`: closing is throwing the closing signal;
* `Lifting.resume_keeps` and `Lifting.perform_keeps`: what one operation preserves, and what any row
  of them does;
* `closing_reaches_started_generator`: a generator that its lifting has started is closed, as it is
  when it is closed directly, or has yielded when it was told to close.

What closing does not reach is a generator that was not started (`closing_leaves_generators_open`),
and closing says nothing about a generator that has ignored an earlier closing. -/

namespace Provision

variable {V E S σ : Type}

/-! ### What is on record -/

/-- A monitor that also puts down what it has watched. -/
def Monitor.recording (μ : Monitor V E S) : Monitor V E (S × History V E) where
  allows s r := μ.allows s.1 r
  moves s x s' := μ.moves s.1 x s'.1 ∧ s'.2 = s.2 ++ [x]
  turned s := (μ.turned s.1, s.2)
  turned_turned s := by simp only [μ.turned_turned]
  moves_turned h hs := ⟨μ.moves_turned h hs.1, hs.2⟩

lemma Monitor.Watches.recording {μ : Monitor V E S} {s s' : S} {h : History V E}
    (hs : μ.Watches s h s') (k : History V E) : μ.recording.Watches (s, k) h (s', k ++ h) := by
  induction h generalizing s k with
  | nil =>
    obtain rfl := hs
    rw [List.append_nil]
    rfl
  | cons x h ih =>
    obtain ⟨s₁, hx, hs⟩ := hs
    have hrest := ih hs (k ++ [x])
    rw [List.append_assoc] at hrest
    exact ⟨(s₁, k ++ [x]), ⟨hx, rfl⟩, hrest⟩

/-! ### The generator beneath -/

/-- Whether an exchange is about a program: the program is resumed or closed. -/
def Exchange.Concerns (p : V) (x : Exchange V E) : Prop :=
  match x.request with
  | .resume _ q _ => q = p
  | .close _ q => q = p
  | _ => False

section

variable [ValueLike V] [ErrorLike E]

/-- What a generator does not accept, and what has no effect on it: anything while it is running, a
value before its start, and what is no error. -/
def Stance.Rejects : Stance → Resumption V E → Prop
  | .running, _ => True
  | .created, .send v => v ≠ ValueLike.nothing
  | _, .throw e => ErrorLike.nature e = .improper
  | _, _ => False

/-- What an exchange makes of a generator that nobody else drives. The errors that say that a
generator has yielded when it was told to close are given. -/
inductive Stance.Moves (ignored : E → Prop) (p : V) : Stance → Exchange V E → Stance → Prop
  | suspends {s : Stance} {how : Resumption V E} {v : V} : s ≠ .closed → ¬ s.Rejects how →
    Moves ignored p s ⟨.resume .sync p how, .yields v⟩ .suspended
  | ends {s : Stance} {how : Resumption V E} {v : V} : ¬ s.Rejects how →
    Moves ignored p s ⟨.resume .sync p how, .ends v⟩ .closed
  | raises {s : Stance} {how : Resumption V E} {e : E} : ¬ s.Rejects how →
    Moves ignored p s ⟨.resume .sync p how, .raises e⟩ .closed
  | rejects {s : Stance} {how : Resumption V E} {e : E} : s.Rejects how →
    Moves ignored p s ⟨.resume .sync p how, .raises e⟩ s
  | closes {s : Stance} {a : Option E} : s ≠ .running →
    Moves ignored p s ⟨.close .sync p, a⟩ .closed
  /-- It has yielded when it was told to close. -/
  | ignores {e : E} : ignored e →
    Moves ignored p .suspended ⟨.close .sync p, some e⟩ .suspended
  | busy {e : E} : Moves ignored p .running ⟨.close .sync p, some e⟩ .running
  | aside {s : Stance} {x : Exchange V E} : ¬ x.Concerns p → Moves ignored p s x s

/-- The monitor that follows a generator. -/
def Stance.monitor (ignored : E → Prop) (p : V) : Monitor V E Stance where
  allows _ _ := True
  moves := Stance.Moves ignored p
  turned := id
  turned_turned _ := rfl
  moves_turned _ h := h

variable {ignored : E → Prop} {p : V} {first : Stance} {shown : List (Lifting.Step V E)}
  {s s' : Stance} {k : History V E} {α : Type} {P : Stance × History V E → α → Prop}

lemma Stance.keeps_ask {r : Request V E} {next : r.Answer → Talk V E α} :
    (Talk.ask r next).Keeps (Stance.monitor ignored p).recording P (s, k) ↔
      ∀ a s', Stance.Moves ignored p s ⟨r, a⟩ s' →
        (next a).Keeps (Stance.monitor ignored p).recording P (s', k ++ [⟨r, a⟩]) := by
  constructor
  · rintro ⟨-, hn⟩ a s' hs
    exact hn a (s', _) ⟨hs, rfl⟩
  · rintro hn
    refine ⟨trivial, ?_⟩
    rintro a ⟨s', k'⟩ ⟨hs, rfl⟩
    exact hn a s' hs

/-- An error that is handled meanwhile does not matter to whoever does not look at that. -/
lemma Stance.keeps_handling {e : E} {t : Talk V E α}
    (hP : ∀ s k a x, P (s, k) a → ¬ Exchange.Concerns p x → P (s, k ++ [x]) a)
    (ht : t.Keeps (Stance.monitor ignored p).recording P (s, k ++ [⟨.handle e, ()⟩])) :
    (Talk.handling e t).Keeps (Stance.monitor ignored p).recording P (s, k) := by
  refine Stance.keeps_ask.2 fun a s' hs => ?_
  cases hs
  refine (Talk.keeps_bind t).2 (ht.mono ?_)
  rintro ⟨s', k'⟩ a ha
  refine Stance.keeps_ask.2 fun b s'' hs => ?_
  cases hs
  exact hP s' k' a _ ha id

/-! ### Beneath a lifting -/

/-- Nothing was asked of the program. -/
def Untouched (p : V) (h : History V E) : Prop := ∀ x ∈ h, ¬ Exchange.Concerns p x

omit [ValueLike V] [ErrorLike E] in
lemma Untouched.aside {x : Exchange V E} (hk : Untouched p k) (hx : ¬ x.Concerns p) :
    Untouched p (k ++ [x]) := by
  rintro y hy
  obtain hy | hy := List.mem_append.1 hy
  · exact hk y hy
  · exact List.mem_singleton.1 hy ▸ hx

/-- The generator was told to close, and it has yielded: the error says so. -/
def Defied (ignored : E → Prop) (p : V) (e : E) (s : Stance × History V E) : Prop :=
  s.1 = .suspended ∧ ignored e ∧ ⟨.close .sync p, some e⟩ ∈ s.2

/-- The generator stands where it stood at first: nothing was asked of it, or it is running. -/
def LeftAlone (p : V) (first : Stance) (s : Stance × History V E) : Prop :=
  s.1 = first ∧ (Untouched p s.2 ∨ first = .running)

/-- Where the generator stands beneath a stage of its lifting, together with what was asked. Given
are where it stood at first, and what the lifted program has shown so far. -/
def Lifting.Stage.Over (ignored : E → Prop) (p : V) (first : Stance)
    (shown : List (Lifting.Step V E)) (s : Stance × History V E) : Lifting.Stage → Prop
  | .unstarted => s.1 = first ∧ Untouched p s.2
  | .waiting => s.1 = .suspended
  | .delivering => s.1 = .closed
  | .finished => s.1 = .closed ∨ LeftAlone p first s ∨
      ∃ e, Defied ignored p e s ∧ .raises e ∈ shown

omit [ValueLike V] [ErrorLike E] in
lemma Lifting.Stage.Over.aside {stage : Lifting.Stage} {x : Exchange V E}
    (hs : stage.Over ignored p first shown (s, k)) (hx : ¬ x.Concerns p) :
    stage.Over ignored p first shown (s, k ++ [x]) := by
  cases stage with
  | unstarted => exact ⟨hs.1, hs.2.aside hx⟩
  | waiting | delivering => exact hs
  | finished =>
    refine hs.imp_right (.imp (.imp_right (.imp_left (·.aside hx))) ?_)
    rintro ⟨e, ⟨hs, he, hmem⟩, hshown⟩
    exact ⟨e, ⟨hs, he, List.mem_append_left _ hmem⟩, hshown⟩

omit [ValueLike V] [ErrorLike E] in
lemma Lifting.Stage.Over.show {stage : Lifting.Stage} {s : Stance × History V E}
    (hs : stage.Over ignored p first shown s) (more : List (Lifting.Step V E)) :
    stage.Over ignored p first (shown ++ more) s := by
  cases stage with
  | unstarted | waiting | delivering => exact hs
  | finished =>
    refine hs.imp_right (.imp_right ?_)
    rintro ⟨e, hs, hshown⟩
    exact ⟨e, hs, List.mem_append_left _ hshown⟩

omit [ValueLike V] [ErrorLike E] in
/-- A lifted program that comes to its end, and was not suspended, leaves the generator as it is. -/
lemma Lifting.Stage.Over.finished {stage : Lifting.Stage} {s : Stance × History V E}
    (hs : stage.Over ignored p first shown s) (hw : stage ≠ .waiting) :
    Lifting.Stage.finished.Over ignored p first shown s := by
  cases stage with
  | unstarted => exact .inr (.inl ⟨hs.1, .inl hs.2⟩)
  | waiting => exact absurd rfl hw
  | delivering => exact .inl hs
  | finished => exact hs

/-- What the lifted program makes of the response of a generator. -/
lemma Lifting.follow_over {how : Resumption V E} {a : Signal V E}
    (hm : Stance.Moves ignored p s ⟨.resume .sync p how, a⟩ s')
    (hr : s.Rejects how → s = first ∧ first = .running) :
    (Lifting.follow a).1.Over ignored p first shown (s', k) := by
  cases hm with
  | suspends => exact rfl
  | ends => exact rfl
  | raises => exact .inl rfl
  | rejects h => exact .inr (.inl ⟨(hr h).1, .inr (hr h).2⟩)
  | aside hx => exact absurd rfl hx

/-- Throwing an error into a lifted program whose generator is suspended. -/
lemma Lifting.throwOn_keeps (hi : ∀ e, ignored e → ErrorLike.nature e = .ordinary) (e : E) :
    (Lifting.throwOn p e).Keeps (Stance.monitor ignored p).recording
      (fun s o => o.1.Over ignored p first (shown ++ [o.2]) s) (.suspended, k) := by
  have haside : ∀ s k (o : Lifting.Stage × Lifting.Step V E) x,
      o.1.Over ignored p first (shown ++ [o.2]) (s, k) → ¬ Exchange.Concerns p x →
      o.1.Over ignored p first (shown ++ [o.2]) (s, k ++ [x]) := fun _ _ _ _ ho hx => ho.aside hx
  unfold Lifting.throwOn
  split
  · exact rfl
  · refine Stance.keeps_handling haside (Stance.keeps_ask.2 fun a s' hs => ?_)
    cases hs with
    | closes => exact .inl rfl
    | @ignores e' he =>
      refine .inr (.inr ⟨e', ⟨rfl, he, by simp⟩, ?_⟩)
      rw [Option.getD_some, Lifting.fail, lifting_cross_of_not_ended (by simp [hi _ he])
        (by simp [hi _ he])]
      exact List.mem_concat_self
    | aside hx => exact absurd rfl hx
  · next himproper _ =>
    refine Stance.keeps_handling haside (Stance.keeps_ask.2 fun a s' hs => ?_)
    exact Lifting.follow_over hs fun hr => absurd hr himproper

/-- Whatever is done to a lifted program, the generator beneath stands as it does beneath the new
stage. -/
lemma Lifting.resume_keeps (hi : ∀ e, ignored e → ErrorLike.nature e = .ordinary)
    {stage : Lifting.Stage} (how : Resumption V E)
    (hs : stage.Over ignored p first shown (s, k)) :
    (Lifting.resume p stage how).Keeps (Stance.monitor ignored p).recording
      (fun s o => o.1.Over ignored p first (shown ++ [o.2]) s) (s, k) := by
  have hthrow : ∀ e, stage ≠ .waiting → (Talk.Keeps (Stance.monitor ignored p).recording
      (fun s o => o.1.Over ignored p first (shown ++ [o.2]) s)
      (if ErrorLike.nature e = .improper then .done (stage, .raises e) else .done (Lifting.fail e))
      (s, k)) := by
    intro e hw
    split
    · exact hs.show _
    · exact (hs.finished hw).show _
  cases stage with
  | unstarted =>
    cases how with
    | send v =>
      obtain ⟨rfl, -⟩ := hs
      refine Stance.keeps_ask.2 fun a s' hm => Lifting.follow_over hm fun hr => ?_
      cases s with
      | created => exact absurd rfl hr
      | running => exact ⟨rfl, rfl⟩
      | suspended | closed => cases hr
    | throw e => exact hthrow e nofun
  | waiting =>
    obtain rfl : s = .suspended := hs
    cases how with
    | send v => exact Stance.keeps_ask.2 fun a s' hm => Lifting.follow_over hm fun hr => by cases hr
    | throw e => exact Lifting.throwOn_keeps hi e
  | delivering =>
    cases how with
    | send v => exact .inl hs
    | throw e => exact hthrow e nofun
  | finished => cases how <;> exact hs.show _

/-! ### Rows of operations -/

/-- Performs operations on the lifted form of a program, whatever they come to. -/
def Lifting.perform (p : V) : Lifting.Stage → List (Resumption V E) →
    Talk V E (Lifting.Stage × List (Lifting.Step V E))
  | stage, [] => .done (stage, [])
  | stage, how :: rest => (Lifting.resume p stage how).bind fun o =>
    (Lifting.perform p o.1 rest).bind fun r => .done (r.1, o.2 :: r.2)

/-- After any operations the generator beneath stands as it does beneath the stage. -/
lemma Lifting.perform_keeps (hi : ∀ e, ignored e → ErrorLike.nature e = .ordinary)
    (ops : List (Resumption V E)) {stage : Lifting.Stage} {s : Stance × History V E}
    (hs : stage.Over ignored p first shown s) :
    (Lifting.perform p stage ops).Keeps (Stance.monitor ignored p).recording
      (fun s o => o.1.Over ignored p first (shown ++ o.2) s) s := by
  induction ops generalizing stage shown s with
  | nil => exact hs.show []
  | cons how rest ih =>
    refine (Talk.keeps_bind _).2 ((Lifting.resume_keeps hi how hs).mono fun s o ho => ?_)
    refine (Talk.keeps_bind _).2 ((ih ho).mono fun s r hr => ?_)
    rw [List.append_assoc] at hr
    exact hr

/-! ### Closing -/

/-- Closing a lifted program is throwing the closing signal, of which an orderly end is dropped. -/
theorem Lifting.close_eq_throw (hexit : ErrorLike.nature (ErrorLike.exit : E) = .closing) (p : V)
    (stage : Lifting.Stage) : Lifting.close p stage =
      (Lifting.resume p stage (.throw ErrorLike.exit)).bind fun
        | (_, .raises e) => .done (Lifting.leftover (E := E) e)
        | _ => .done none := by
  have hcross : Boundary.lifting.cross (ErrorLike.exit : E) = ErrorLike.exit :=
    lifting_cross_of_not_ended (by simp [hexit]) (by simp [hexit])
  have hleft : Lifting.leftover (ErrorLike.exit : E) = none := by rw [Lifting.leftover, hexit]
  cases stage with
  | unstarted | delivering =>
    simp [Lifting.close, Lifting.resume, Lifting.fail, hexit, hcross, hleft]
  | finished => rfl
  | waiting =>
    simp only [Lifting.close, Lifting.resume, Lifting.throwOn, hexit, Talk.handling, Talk.bind_ask,
      Lifting.fail]
    congr 1
    funext _
    congr 1
    funext a
    cases a <;> simp [hcross, hleft]

omit [ValueLike V] in
/-- What closing a lifted program asks, and the error that comes out. -/
lemma Lifting.close_comes {stage : Lifting.Stage} {c : Option E} {h : History V E} :
    (Lifting.close p stage).Comes h c ↔
      (stage ≠ .waiting ∧ h = [] ∧ c = none) ∨
      (stage = .waiting ∧ ∃ a, h = [⟨.handle ErrorLike.exit, ()⟩, ⟨.close .sync p, a⟩,
          ⟨.handled, ()⟩] ∧ c = a.bind fun e => Lifting.leftover (Boundary.lifting.cross e)) := by
  have hidle : (Talk.done none : Talk V E (Option E)).Comes h c ↔ h = [] ∧ c = none := Iff.rfl
  cases stage with
  | unstarted | delivering | finished => simpa [Lifting.close] using hidle
  | waiting =>
    constructor
    · rintro ⟨_, _, rfl, hn⟩
      obtain ⟨_, _, _, rfl, ⟨a, _, rfl, ha⟩, _, _, rfl, rfl, rfl⟩ := (Talk.comes_bind _).1 hn
      cases a <;> obtain ⟨rfl, rfl⟩ := ha <;> exact .inr ⟨rfl, _, rfl, rfl⟩
    · rintro (⟨hw, -⟩ | ⟨-, a, rfl, rfl⟩)
      · exact absurd rfl hw
      · refine ⟨(), _, rfl, (Talk.comes_bind _).2
          ⟨[_], _, [_], rfl, ⟨a, [], rfl, ?_⟩, (), [], rfl, rfl, rfl⟩⟩
        cases a <;> exact ⟨rfl, rfl⟩

/-- Where closing a suspended lifted program leaves the generator beneath. -/
lemma Lifting.close_waiting_keeps (hi : ∀ e, ignored e → ErrorLike.nature e = .ordinary) :
    (Lifting.close p .waiting).Keeps (Stance.monitor ignored p).recording
      (fun s c => s.1 = .closed ∨ ∃ e, Defied ignored p e s ∧ c = some e) (.suspended, k) := by
  refine Stance.keeps_handling ?_ (Stance.keeps_ask.2 fun a s' hm => ?_)
  · rintro s k c x (hc | ⟨e, ⟨hs, he, hmem⟩, hc⟩) -
    · exact .inl hc
    · exact .inr ⟨e, ⟨hs, he, List.mem_append_left _ hmem⟩, hc⟩
  · cases hm with
    | closes => cases a <;> exact .inl rfl
    | @ignores e he =>
      exact .inr ⟨e, ⟨rfl, he, by simp⟩, leftover_cross_ordinary (hi e he)⟩
    | aside hx => exact absurd rfl hx

/-- **A generator that its lifted form has started is closed with it.** Any operations are performed
on the lifted form of a generator that nobody else drives, and then that is closed.

* If the lifted form was suspended, the generator is closed, and nothing else is asked. An ordinary
  error that comes out of it comes out as it is, and a generator that takes no notice of the closing
  signal being handled does and answers the same as when it is closed directly. It is closed by
  that, unless it has yielded when it was told to close, and then the error that says so comes out.
* Otherwise nothing is asked, and no error comes out. The generator stands as it does beneath the
  stage: it was never started, or it is closed already; but in two cases it is not though the lifted
  form is at its end. Either the lifted form did not get to start it, or it has yielded when the
  closing signal was thrown into the lifted form, which has shown the error that says so. -/
theorem closing_reaches_started_generator (p : V) (ops : List (Resumption V E)) {ignored : E → Prop}
    (hi : ∀ e, ignored e → ErrorLike.nature e = .ordinary) {h h' : History V E}
    {stage : Lifting.Stage} {shown : List (Lifting.Step V E)} {c : Option E}
    (hops : (Lifting.perform p .unstarted ops).Comes h (stage, shown))
    (hclose : (Lifting.close p stage).Comes h' c) :
    (stage = .waiting →
      (∃ a, h' = [⟨.handle ErrorLike.exit, ()⟩, ⟨.close .sync p, a⟩, ⟨.handled, ()⟩] ∧
        ((∀ e, a = some e → ErrorLike.nature e = .ordinary) → c = a) ∧
        ∀ (σ : Type) (host : Host V E σ) (t t' : σ) (R : σ → σ → Prop), host.Answers t h' t' →
          Agree R (host (.close .sync p) t)
            (host.whileHandling ErrorLike.exit (.close .sync p) t) →
          Agree R (host (.close .sync p) t) (a, t')) ∧
      ∀ first s', (Stance.monitor ignored p).Watches first (h ++ h') s' →
        s' = .closed ∨ ∃ e, Defied ignored p e (s', h ++ h') ∧ c = some e) ∧
    (stage ≠ .waiting → h' = [] ∧ c = none ∧
      ∀ first s', (Stance.monitor ignored p).Watches first h s' →
        stage.Over ignored p first shown (s', h)) := by
  have hover : ∀ first s', (Stance.monitor ignored p).Watches first h s' →
      stage.Over ignored p first shown (s', h) := by
    intro first s' hw
    have hunstarted : Lifting.Stage.unstarted.Over (E := E) ignored p first [] (first, []) :=
      ⟨rfl, nofun⟩
    exact (Lifting.perform_keeps hi ops hunstarted).comes hops (hw.recording [])
  obtain ⟨hidle, rfl, rfl⟩ | ⟨rfl, a, rfl, rfl⟩ := Lifting.close_comes.1 hclose
  · exact ⟨fun hw => absurd hw hidle, fun _ => ⟨rfl, rfl, hover⟩⟩
  · refine ⟨fun _ => ⟨⟨a, rfl, fun ha => ?_, ?_⟩, ?_⟩, fun hw => absurd rfl hw⟩
    · cases a with
      | none => rfl
      | some e => exact leftover_cross_ordinary (ha e rfl)
    · rintro σ host t t' R ⟨-, ha, -, ht⟩ hR
      have hout : (a, t') = host.whileHandling ErrorLike.exit (.close .sync p) t := Prod.ext ha ht
      exact hout ▸ hR
    · intro first s' hw
      obtain ⟨s, hs, hs'⟩ := hw.split
      obtain rfl : s = .suspended := hover first s hs
      exact (Lifting.close_waiting_keeps hi).comes hclose (hs'.recording h)

end

/-! ### Generators that closing does not reach -/

section

open Script

/-- Surroundings in which a generator yields once it is started, and fails when it is closed. -/
def failingCleanup : Host Value Fault Unit := fun q => pure <|
  match q with
  | .inspect .. => .ok synchronous
  | .resume .. => .yields .none
  | .close .. => some (.raised .ordinary 1)
  | .find name => .found name
  | .nameOf token => .ok token
  | .valueOf completion => .ok completion
  | .due => .goOn
  | .build .. => .ok .none
  | .complain _ => .spent
  | .handle _ | .handled => ()
  | .barred | .report _ | .discard _ => none

/-- The case of a suspended generator that fails when it is closed: its error comes out, and if this
does not say that it has yielded, the generator is closed. -/
theorem failing_cleanup_comes_out : ∃ h h' c,
    (Lifting.perform (.object 0) .unstarted [.send .none]).Comes h
      (.waiting, [.yields .none]) ∧
    (Lifting.close (.object 0) .waiting).Comes h' c ∧ failingCleanup.Answers () (h ++ h') () ∧
    c = some (.raised .ordinary 1) ∧
    ∀ s', (Stance.monitor (· = .raised .ordinary 2) (.object 0)).Watches .created (h ++ h') s' →
      s' = .closed := by
  have hops : (Lifting.perform (.object 0) .unstarted [.send .none]).Comes
      [⟨.resume .sync (.object 0) (.send .none), .yields .none⟩]
      (Lifting.Stage.waiting, [(.yields .none : Lifting.Step Value Fault)]) :=
    ⟨_, _, rfl, rfl, rfl⟩
  have hclose : (Lifting.close (.object 0) .waiting : Talk Value Fault _).Comes
      [⟨.handle .closing, ()⟩, ⟨.close .sync (.object 0), some (.raised .ordinary 1)⟩,
        ⟨.handled, ()⟩] (some (.raised .ordinary 1)) :=
    Lifting.close_comes.2 (.inr ⟨rfl, _, rfl, rfl⟩)
  have hignored : ∀ e, e = (.raised .ordinary 2 : Fault) → ErrorLike.nature e = .ordinary := by
    rintro _ rfl
    rfl
  obtain ⟨-, hstands⟩ := (closing_reaches_started_generator (.object 0 : Value) [.send .none]
    hignored hops hclose).1 rfl
  refine ⟨_, _, _, hops, hclose, ⟨rfl, rfl, rfl, rfl, rfl⟩, rfl, fun s' hw => ?_⟩
  obtain hs | ⟨e, ⟨-, rfl, -⟩, hc⟩ := hstands _ s' hw
  · exact hs
  · cases hc

/-- Closing a lifted form that was not started does not close the generator. And a generator that
has yielded when the closing signal was thrown into its lifted form stays suspended when that is
closed, though no error comes out of it. -/
theorem closing_leaves_generators_open :
    (∃ h h' c s', (Lifting.perform (.object 0) .unstarted []).Comes h
        ((.unstarted, []) : _ × List (Lifting.Step Value Fault)) ∧
      (Lifting.close (.object 0) .unstarted).Comes h' c ∧
      (Stance.monitor (· = .raised .ordinary 1) (.object 0)).Watches .created (h ++ h') s' ∧
      s' = .created ∧ c = none) ∧
    ∃ h h' c s', (Lifting.perform (.object 0) .unstarted [.send .none, .throw .closing]).Comes h
        ((.finished, [.yields .none, .raises (.raised .ordinary 1)]) :
          _ × List (Lifting.Step Value Fault)) ∧
      (Lifting.close (.object 0) .finished).Comes h' c ∧
      (Stance.monitor (· = .raised .ordinary 1) (.object 0)).Watches .created (h ++ h') s' ∧
      s' = .suspended ∧ c = none := by
  have hidle : ∀ stage, stage ≠ .waiting →
      (Lifting.close (.object 0) stage : Talk Value Fault _).Comes [] none :=
    fun stage hw => Lifting.close_comes.2 (.inl ⟨hw, rfl, rfl⟩)
  constructor
  · exact ⟨[], [], none, .created, ⟨rfl, rfl⟩, hidle _ nofun, rfl, rfl, rfl⟩
  · refine ⟨[⟨.resume .sync (.object 0) (.send .none), .yields .none⟩, ⟨.handle .closing, ()⟩,
      ⟨.close .sync (.object 0), some (.raised .ordinary 1)⟩, ⟨.handled, ()⟩], [], none, .suspended,
      ⟨_, _, rfl, _, _, rfl, _, _, rfl, _, _, rfl, rfl, rfl⟩, hidle _ nofun, ?_, rfl, rfl⟩
    have hstart : ¬ Stance.created.Rejects (.send .none : Resumption Value Fault) := by
      simp [Stance.Rejects, ValueLike.nothing]
    exact ⟨_, .suspends nofun hstart, _, .aside id, _, .ignores rfl, _, .aside id, rfl⟩

end

end Provision
