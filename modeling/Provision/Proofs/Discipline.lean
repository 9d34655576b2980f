import Provision.Proofs.Courses
import Provision.Proofs.ShortCircuit

/-!
Discipline: what a call does to the program it has accepted, whatever comes of it.

The resumptions and closings in a course are those of its own program; nested calls see to theirs.
`Driven` puts them in order: rounds first, each a resumption with the response to it, then closings.
How many closings there may be, and whether the program may be resumed once more, is told by the
level (`Level.Resumable`, `Level.Closable`); every part of a level leads from one of these to
another (`resume_orderly`, `close_orderly`, `cycle_orderly`), and `Course.settled` is what they come
to.

`Life.Moves` says what an exchange makes of a generator, by the rules generators have in common.
After its last closing nothing happens to the program any more, so its stance can be read off there
(`Lives.settled`).
-/

namespace Provision

variable {V E : Type}

/-! ### Rounds and closings -/

/-- A resumption of a program and the response to it. -/
abbrev Round (V E : Type) := Resumption V E × Signal V E

/-- Whether a program has suspended. -/
def Signal.suspends : Signal V E → Bool
  | .yields _ => true
  | _ => false

/-- The program has suspended in the last round. -/
def Pending (rounds : List (Round V E)) : Prop := ∃ x ∈ rounds.getLast?, x.2.suspends = true

/-- The protocol that a program is resumed and closed through. -/
def Form.via : Form → Protocol
  | .direct via => via
  | .lifted => .sync

@[simp]
lemma Level.opened_program (p : V) (form : Form) : (Level.opened p form).program = p := by
  cases form <;> rfl

@[simp]
lemma Level.opened_form (p : V) (form : Form) : (Level.opened p form).form = form := by
  cases form <;> rfl

/-- What a call itself does to a program in one of its exchanges. -/
def Passage.act : Passage V E → Option (Exchange V E)
  | .own ⟨.resume via p how, s⟩ => some ⟨.resume via p how, s⟩
  | .own ⟨.close via p, a⟩ => some ⟨.close via p, a⟩
  | _ => none

/-- All that a call itself does to programs, in order. -/
def acts (k : List (Passage V E)) : History V E := k.filterMap Passage.act

/-- A call does nothing to programs except that it resumes `p`, at first without a value and then
only after `p` has suspended, and that it closes `p` afterwards. -/
structure Driven [ValueLike V] (via : Protocol) (p : V) (k : List (Passage V E))
    (rounds : List (Round V E)) (closings : List (Option E)) : Prop where
  acts : acts k = rounds.map (fun x => ⟨.resume via p x.1, x.2⟩) ++
    closings.map (fun a => ⟨.close via p, a⟩)
  starts : ∀ x ∈ rounds.head?, x.1 = .send ValueLike.nothing
  answers : ∀ x ∈ rounds.dropLast, x.2.suspends = true

/-- The last thing a call did was to close `p`, and this came out of it. -/
def EndsClosed (via : Protocol) (p : V) (a : Option E) (k : List (Passage V E)) : Prop :=
  ∃ k₀ n, k = k₀ ++ .own ⟨.close via p, a⟩ :: List.replicate n (.own ⟨.handled, ()⟩)

lemma EndsClosed.handled {via : Protocol} {p : V} {a : Option E} {k : List (Passage V E)}
    (hk : EndsClosed via p a k) : EndsClosed via p a (k ++ [.own ⟨.handled, ()⟩]) := by
  obtain ⟨k₀, n, rfl⟩ := hk
  refine ⟨k₀, n + 1, ?_⟩
  rw [List.append_assoc, List.cons_append, ← List.replicate_succ']

section

variable [ValueLike V] {via : Protocol} {p : V} {k : List (Passage V E)}
  {rounds : List (Round V E)} {closings : List (Option E)}

/-- What is not done to a program leaves everything as it is. -/
lemma Driven.silent (hk : Driven via p k rounds closings) {x : Passage V E} (hx : x.act = none) :
    Driven via p (k ++ [x]) rounds closings := by
  refine ⟨?_, hk.starts, hk.answers⟩
  rw [Provision.acts, List.filterMap_append, List.filterMap_cons_none hx, List.filterMap_nil,
    List.append_nil]
  exact hk.acts

/-- A program is resumed for the first time, or after it has suspended. -/
lemma Driven.resumed (hk : Driven via p k rounds []) {how : Resumption V E} (s : Signal V E)
    (hr : rounds = [] ∧ how = .send ValueLike.nothing ∨ Pending rounds) :
    Driven via p (k ++ [.own ⟨.resume via p how, s⟩]) (rounds ++ [(how, s)]) [] := by
  have hacts : Provision.acts (k ++ [.own ⟨.resume via p how, s⟩]) =
      (rounds ++ [(how, s)]).map (fun x => ⟨.resume via p x.1, x.2⟩) ++ [] := by
    rw [Provision.acts, List.filterMap_append, ← Provision.acts, hk.acts]
    simp [Passage.act]
  obtain ⟨rfl, rfl⟩ | ⟨y, hy, hs⟩ := hr
  · exact ⟨hacts, by simp, by simp⟩
  · obtain ⟨rounds', rfl⟩ := List.getLast?_eq_some_iff.1 hy
    refine ⟨hacts, fun x hx => hk.starts x (by simpa using hx), fun x hx => ?_⟩
    rw [List.dropLast_concat, List.mem_append, List.mem_singleton] at hx
    obtain hx | rfl := hx
    · exact hk.answers x (by rwa [List.dropLast_concat])
    · exact hs

/-- A program is closed, maybe once more. -/
lemma Driven.closed (hk : Driven via p k rounds closings) (a : Option E) :
    Driven via p (k ++ [.own ⟨.close via p, a⟩]) rounds (closings ++ [a]) := by
  refine ⟨?_, hk.starts, hk.answers⟩
  rw [Provision.acts, List.filterMap_append, ← Provision.acts, hk.acts]
  simp [Passage.act]

/-! ### What a level allows -/

/-- The program of a level can be resumed in this way: for the first time, or after it has
suspended. -/
def Level.Resumable (l : Level V) (how : Resumption V E) (k : List (Passage V E)) : Prop :=
  ∃ rounds, Driven l.form.via l.program k rounds [] ∧
    match l.drive with
    | .inl _ => rounds = [] ∧ how = .send ValueLike.nothing ∨ Pending rounds
    | .inr .unstarted => rounds = [] ∧ how = .send ValueLike.nothing
    | .inr .waiting => Pending rounds
    | .inr _ => False

/-- The program of a level has suspended. -/
def Level.Halted (l : Level V) (k : List (Passage V E)) : Prop :=
  ∃ rounds, Driven l.form.via l.program k rounds [] ∧ Pending rounds ∧
    match l.drive with
    | .inl _ => True
    | .inr stage => stage = .waiting

/-- The program of a level is to be closed. It was closed before only if it is lifted and was closed
by what was thrown into its lifting. -/
def Level.Closable (l : Level V) (k : List (Passage V E)) : Prop :=
  ∃ rounds closings, Driven l.form.via l.program k rounds closings ∧
    match l.drive with
    | .inr .waiting => closings = [] ∧ Pending rounds
    | .inr .finished => closings = [] ∨ closings.length = 1 ∧ Pending rounds
    | _ => closings = []

/-- A call has closed its program, for the last time with this coming out. It was closed once; a
lifted one that was suspended may have been closed twice. -/
def ClosedUp (p : V) (form : Form) (k : List (Passage V E)) (a : Option E) : Prop :=
  ∃ rounds closings, Driven form.via p k rounds closings ∧ EndsClosed form.via p a k ∧
    (closings.length = 1 ∨ form = .lifted ∧ closings.length = 2 ∧ Pending rounds)

lemma Level.Halted.resumable {l : Level V} (hl : l.Halted k) (how : Resumption V E) :
    l.Resumable how k := by
  obtain ⟨rounds, hk, hp, hd⟩ := hl
  obtain ⟨program, via | stage⟩ := l
  · exact ⟨rounds, hk, .inr hp⟩
  · obtain rfl := hd
    exact ⟨rounds, hk, hp⟩

lemma Level.Halted.closable {l : Level V} (hl : l.Halted k) : l.Closable k := by
  obtain ⟨rounds, hk, hp, hd⟩ := hl
  obtain ⟨program, via | stage⟩ := l
  · exact ⟨rounds, [], hk, rfl⟩
  · obtain rfl := hd
    exact ⟨rounds, [], hk, rfl, hp⟩

/-- What is kept by everything that is not done to a program. -/
def Lasting (P : List (Passage V E) → Prop) : Prop :=
  ∀ k x, Passage.act x = none → P k → P (k ++ [x])

lemma Level.halted_lasting (l : Level V) : Lasting (E := E) l.Halted := by
  rintro k x hx ⟨rounds, hk, h⟩
  exact ⟨rounds, hk.silent hx, h⟩

lemma Level.closable_lasting (l : Level V) : Lasting (E := E) l.Closable := by
  rintro k x hx ⟨rounds, closings, hk, h⟩
  exact ⟨rounds, closings, hk.silent hx, h⟩

end

/-! ### Talks that do nothing to programs -/

section

variable {α : Type} {P : List (Passage V E) → Prop} {k : List (Passage V E)}

lemma lasting_ask (hP : Lasting P) {q : Request V E} {next : q.Answer → Talk V E α}
    {Q : List (Passage V E) → α → Prop} (hq : ∀ a, Passage.act (.own ⟨q, a⟩) = none) (hk : P k)
    (hnext : ∀ a k, P k → (next a).Keeps Passage.recorder Q k) :
    (Talk.ask q next).Keeps Passage.recorder Q k :=
  keeps_ask_recorder.2 fun a => hnext a _ (hP k _ (hq a) hk)

/-- Looking a name up does nothing to a program. -/
lemma lookup_lasts [ErrorLike E] (hP : Lasting P) (name : V) (hk : P k) :
    (lookup name).Keeps Passage.recorder (fun k _ => P k) k := by
  refine lasting_ask hP (fun _ => rfl) hk fun a k hk => ?_
  cases a with
  | found v => exact hk
  | failed e => exact hk
  | absent said =>
    rw [keeps_handling_recorder]
    refine lasting_ask hP (fun _ => rfl) (hP _ _ rfl hk) fun a k hk => ?_
    cases a with
    | some e => exact hP _ _ rfl hk
    | none => exact lasting_ask hP (fun _ => rfl) hk fun e k hk => hP _ _ rfl hk

/-- Reading a payload does nothing to a program. -/
lemma classify_lasts (hP : Lasting P) (payload : V) (hk : P k) :
    (classify payload).Keeps Passage.recorder (fun k _ => P k) k := by
  refine lasting_ask hP (fun _ => rfl) hk fun a k hk => ?_
  cases a with
  | error e => exact hk
  | ok traits =>
    cases hkind : traits.kind with
    | ok kind => simpa [hkind] using hk
    | error why =>
      cases why with
      | uncalled =>
        simp only [hkind]
        exact lasting_ask hP (fun _ => rfl) hk fun e k hk => hk
      | coroutine =>
        simp only [hkind]
        refine lasting_ask hP (fun _ => rfl) hk fun a k hk => ?_
        cases a with
        | some e => exact hk
        | none => exact lasting_ask hP (fun _ => rfl) hk fun e k hk => hk

end

/-! ### The parts of a level -/

section

variable [ValueLike V] [ErrorLike E] {m : Manner} {k : List (Passage V E)}

/-- How things stand once the program of a level has responded: it has suspended, or it is to be
closed. -/
def Response.Stands (s : Response V E) (l : Level V) (k : List (Passage V E)) : Prop :=
  match s with
  | .yields _ => l.Halted k
  | _ => l.Closable k

omit [ErrorLike E] in
/-- A program that is driven directly has responded. -/
lemma response_stands {via : Protocol} {q : V} {rounds : List (Round V E)}
    {how : Resumption V E} {s : Signal V E} (hk : Driven via q k (rounds ++ [(how, s)]) []) :
    (via.response s).Stands ⟨q, .inl via⟩ k := by
  cases s with
  | yields payload => cases via <;> exact ⟨_, hk, ⟨_, List.getLast?_concat, rfl⟩, trivial⟩
  | ends value => cases via <;> exact ⟨_, [], hk, rfl⟩
  | raises e => cases via <;> exact ⟨_, [], hk, rfl⟩

/-- A program has responded to its lifting. -/
lemma follow_stands {q : V} {rounds : List (Round V E)} {how : Resumption V E}
    {s : Signal V E} (hk : Driven .sync q k (rounds ++ [(how, s)]) []) :
    (Lifting.follow s).2.response.Stands ⟨q, .inr (Lifting.follow s).1⟩ k := by
  cases s with
  | yields payload => exact ⟨_, hk, ⟨_, List.getLast?_concat, rfl⟩, rfl⟩
  | ends value => exact ⟨_, [], hk, rfl⟩
  | raises e => exact ⟨_, [], hk, .inl rfl⟩

/-- Throwing an error into the lifting of a program that has suspended. -/
lemma throwOn_orderly (q : V) (e : E) {rounds : List (Round V E)}
    (hk : Driven .sync q k rounds []) (hp : Pending rounds) :
    (Lifting.throwOn q e).Keeps Passage.recorder
      (fun k o => o.2.response.Stands ⟨q, .inr o.1⟩ k) k := by
  unfold Lifting.throwOn
  split
  · exact ⟨rounds, [], hk, rfl, hp⟩
  · rw [keeps_handling_recorder, keeps_ask_recorder]
    intro a
    exact ⟨rounds, [a], ((hk.silent rfl).closed a).silent rfl, .inr ⟨rfl, hp⟩⟩
  · rw [keeps_handling_recorder, keeps_ask_recorder]
    intro s
    exact follow_stands (((hk.silent rfl).resumed s (.inr hp)).silent rfl)

/-- Resuming the program of a level. -/
lemma Level.resume_orderly (l : Level V) (how : Resumption V E) (hl : l.Resumable how k) :
    (l.resume how).Keeps Passage.recorder (fun k o =>
      (o.1.program = l.program ∧ o.1.form = l.form) ∧ o.2.Stands o.1 k) k := by
  obtain ⟨rounds, hk, hl⟩ := hl
  obtain ⟨program, via | stage⟩ := l
  · refine keeps_ask_recorder.2 fun s => ⟨⟨rfl, rfl⟩, ?_⟩
    exact response_stands (hk.resumed s hl)
  · unfold Level.resume
    rw [Talk.keeps_bind]
    suffices hstep : (Lifting.resume program stage how).Keeps Passage.recorder
        (fun k o => o.2.response.Stands ⟨program, .inr o.1⟩ k) k from
      hstep.mono fun _ _ ho => ⟨⟨rfl, rfl⟩, ho⟩
    cases stage with
    | unstarted =>
      obtain ⟨rfl, rfl⟩ := hl
      exact keeps_ask_recorder.2 fun s => follow_stands (hk.resumed s (.inl ⟨rfl, rfl⟩))
    | waiting =>
      cases how with
      | send v => exact keeps_ask_recorder.2 fun s => follow_stands (hk.resumed s (.inr hl))
      | throw e => exact throwOn_orderly program e hk hl
    | delivering => cases hl
    | finished => cases hl

/-- How things stand once the program of a level was closed: an error that came out at last comes
out of the level, unless a lifting may change or drop it. -/
def Level.ClosedWith (l : Level V) (k : List (Passage V E)) (a : Option E) : Prop :=
  ∃ c, ClosedUp l.program l.form k c ∧
    ∀ e, c = some e → ErrorLike.nature e = .ordinary ∨ l.form ≠ .lifted → a = some e

/-- Closing the program of a level for the last time. -/
lemma close_last_orderly (l : Level V) {rounds : List (Round V E)} {closings : List (Option E)}
    (hk : Driven l.form.via l.program k rounds closings)
    (hc : closings = [] ∨ l.form = .lifted ∧ closings.length = 1 ∧ Pending rounds) :
    (Talk.ask (.close l.form.via l.program) .done).Keeps Passage.recorder l.ClosedWith k := by
  refine keeps_ask_recorder.2 fun a => ⟨a, ⟨rounds, closings ++ [a], hk.closed a, ?_, ?_⟩, ?_⟩
  · exact ⟨k, 0, rfl⟩
  · obtain rfl | ⟨hl, hc, hp⟩ := hc
    · exact .inl rfl
    · exact .inr ⟨hl, by rw [List.length_append, hc]; rfl, hp⟩
  · rintro e rfl -
    rfl

/-- An ordinary error passes through a lifting that is closed. -/
lemma leftover_cross_ordinary {e : E} (he : ErrorLike.nature e = .ordinary) :
    Lifting.leftover (Boundary.lifting.cross e) = some e := by
  rw [lifting_cross_of_not_ended (by simp [he]) (by simp [he]), Lifting.leftover, he]

/-- Closing the program of a level. -/
lemma Level.close_orderly (l : Level V) (hl : l.Closable k) :
    l.close.Keeps Passage.recorder l.ClosedWith k := by
  obtain ⟨rounds, closings, hk, hl⟩ := hl
  obtain ⟨program, via | stage⟩ := l
  · exact close_last_orderly ⟨program, .inl via⟩ hk (.inl hl)
  · have hlast : ∀ {k closings}, Driven .sync program k rounds closings →
        (closings = [] ∨ closings.length = 1 ∧ Pending rounds) →
        (Talk.ask (.close .sync program) .done).Keeps Passage.recorder
          (Level.ClosedWith ⟨program, .inr stage⟩) k := fun hk hc =>
      close_last_orderly ⟨program, .inr stage⟩ hk (hc.imp_right fun h => ⟨rfl, h⟩)
    cases stage with
    | unstarted => exact hlast hk (.inl hl)
    | delivering => exact hlast hk (.inl hl)
    | finished => exact hlast hk hl
    | waiting =>
      obtain ⟨rfl, hp⟩ := hl
      simp only [Level.close, Lifting.close, Talk.keeps_bind]
      rw [keeps_handling_recorder, keeps_ask_recorder]
      intro a
      have hclosed := ((hk.silent (x := .own ⟨.handle ErrorLike.exit, ()⟩) rfl).closed a).silent
        (x := .own ⟨.handled, ()⟩) rfl
      cases a with
      | none => exact hlast hclosed (.inr ⟨rfl, hp⟩)
      | some e =>
        show (Talk.done (Lifting.leftover (Boundary.lifting.cross e))).Keeps _ _ _
        rw [Talk.keeps_done]
        cases hleft : Lifting.leftover (Boundary.lifting.cross e) with
        | none => exact hlast hclosed (.inr ⟨rfl, hp⟩)
        | some e' =>
          refine ⟨some e, ⟨rounds, [some e], hclosed, ?_, .inl rfl⟩, ?_⟩
          · exact EndsClosed.handled ⟨_, 0, rfl⟩
          · rintro _ ⟨⟩ (he | he)
            · rw [← hleft, leftover_cross_ordinary he]
            · exact absurd rfl he

/-- A call has come to an outcome: its program was closed, and an error that came out of that at
last is the outcome, unless a boundary changes or drops it. -/
def Settled (p : V) (form : Form) (k : List (Passage V E)) (r : Except E V) : Prop :=
  ∃ c, ClosedUp p form k c ∧ ∀ e, c = some e →
    ErrorLike.nature e = .ordinary ∨ form ≠ .lifted ∧ ErrorLike.nature e ≠ .ended → r = .error e

/-- What a call that drives `p` may do next. -/
def Verdict.Orderly (p : V) (form : Form) (k : List (Passage V E)) : Verdict V E → Prop
  | .again l how => (l.program = p ∧ l.form = form) ∧ l.Resumable how k
  | .enter l _ => (l.program = p ∧ l.form = form) ∧ l.Halted k
  | .leave r => Settled p form k r

lemma Level.ClosedWith.handled {l : Level V} {a : Option E} (h : l.ClosedWith k a) :
    l.ClosedWith (k ++ [.own ⟨.handled, ()⟩]) a := by
  obtain ⟨c, ⟨rounds, closings, hk, hends, hc⟩, ha⟩ := h
  exact ⟨c, ⟨rounds, closings, hk.silent rfl, hends.handled, hc⟩, ha⟩

/-- What came out of a level when it was closed is its outcome. -/
lemma Level.ClosedWith.settled_error {l : Level V} {e : E} (h : l.ClosedWith k (some e)) :
    Settled l.program l.form k (m.out (.error e)) := by
  obtain ⟨c, hc, ha⟩ := h
  refine ⟨c, hc, fun e' he hn => ?_⟩
  obtain rfl := Option.some.inj (ha e' he (hn.imp_right And.left))
  rw [Manner.out_error, Manner.cross_of_not_ended]
  rintro hended
  simp [hended] at hn

/-- If nothing came out of a level when it was closed, it may have any outcome. -/
lemma Level.ClosedWith.settled {l : Level V} (h : l.ClosedWith k (none : Option E))
    (r : Except E V) : Settled l.program l.form k r := by
  obtain ⟨c, hc, ha⟩ := h
  exact ⟨c, hc, fun e he hn => nomatch ha e he (hn.imp_right And.left)⟩

/-- Leaving a level. -/
lemma finish_orderly (l : Level V) (r : Except E V) (hl : l.Closable k) :
    (finish m l r).Keeps Passage.recorder (Verdict.Orderly l.program l.form) k := by
  unfold finish
  rw [Talk.keeps_bind]
  cases r with
  | ok v =>
    refine (l.close_orderly hl).mono fun k a ha => ?_
    cases a with
    | some e => exact ha.settled_error
    | none => exact ha.settled _
  | error e =>
    rw [keeps_handling_recorder]
    refine (l.close_orderly (l.closable_lasting _ _ rfl hl)).mono fun k a ha => ?_
    cases a with
    | some e' => exact ha.handled.settled_error
    | none => exact ha.handled.settled _

/-- Putting a record into the log. -/
lemma reporting_orderly {l : Level V} {P : List (Passage V E) → Prop} (hP : Lasting P)
    (hclose : ∀ k, P k → l.Closable k) (r : Report V) {next : Talk V E (Verdict V E)} (hk : P k)
    (hnext : ∀ k, P k → next.Keeps Passage.recorder (Verdict.Orderly l.program l.form) k) :
    (reporting m l r next).Keeps Passage.recorder (Verdict.Orderly l.program l.form) k := by
  refine lasting_ask hP (fun _ => rfl) hk fun a k hk => ?_
  cases a with
  | some e => exact finish_orderly l _ (hclose k hk)
  | none => exact hnext k hk

/-- Leaving with a final value. -/
lemma deliver_orderly (l : Level V) {value : Talk V E (Except E V)} (hl : l.Closable k)
    (hvalue : ∀ k, l.Closable k → value.Keeps Passage.recorder (fun k _ => l.Closable k) k) :
    (deliver m l value).Keeps Passage.recorder (Verdict.Orderly l.program l.form) k := by
  refine reporting_orderly l.closable_lasting (fun _ h => h) _ hl fun k hk => ?_
  rw [Talk.keeps_bind]
  exact (hvalue k hk).mono fun k r hk => finish_orderly l r hk

/-- Looking at the cancellation before an answer. -/
lemma unlessDue_orderly (l : Level V) {answer : Talk V E (Verdict V E)} (hl : l.Halted k)
    (hanswer : ∀ k, l.Halted k →
      answer.Keeps Passage.recorder (Verdict.Orderly l.program l.form) k) :
    (unlessDue m l answer).Keeps Passage.recorder (Verdict.Orderly l.program l.form) k := by
  refine lasting_ask l.halted_lasting (fun _ => rfl) hl fun a k hk => ?_
  cases a with
  | goOn => exact hanswer k hk
  | stop how => exact ⟨⟨rfl, rfl⟩, hk.resumable how⟩
  | failed e => exact finish_orderly l _ hk.closable

/-- Answering a payload. -/
lemma settle_orderly (l : Level V) (payload : V) (kind : Kind) (hl : l.Halted k) :
    (settle m l payload kind).Keeps Passage.recorder (Verdict.Orderly l.program l.form) k := by
  have hreporting : ∀ {k} r v, l.Halted k →
      (∀ k, l.Halted k → Verdict.Orderly l.program l.form k v) →
      (reporting m l r (.done v)).Keeps Passage.recorder
        (Verdict.Orderly (E := E) l.program l.form) k := fun r v hk hv =>
    reporting_orderly l.halted_lasting (fun _ => Level.Halted.closable) r hk hv
  cases kind with
  | completion =>
    refine deliver_orderly l hl.closable fun k hk => ?_
    exact lasting_ask l.closable_lasting (fun _ => rfl) hk fun _ k hk => hk
  | nested =>
    exact unlessDue_orderly l hl fun k hk => hreporting _ _ hk fun k hk => ⟨⟨rfl, rfl⟩, hk⟩
  | passthrough =>
    exact unlessDue_orderly l hl fun k hk =>
      hreporting _ _ hk fun k hk => ⟨⟨rfl, rfl⟩, hk.resumable _⟩
  | service =>
    refine unlessDue_orderly l hl fun k hk => ?_
    refine lasting_ask l.halted_lasting (fun _ => rfl) hk fun a k hk => ?_
    cases a with
    | error e => exact finish_orderly l _ hk.closable
    | ok name =>
      refine (Talk.keeps_bind _).2 ((lookup_lasts l.halted_lasting name hk).mono fun k a hk => ?_)
      cases a with
      | error e => exact finish_orderly l _ hk.closable
      | ok v => exact hreporting _ _ hk fun k hk => ⟨⟨rfl, rfl⟩, hk.resumable _⟩

/-- One cycle of a level. -/
lemma cycle_orderly (l : Level V) (how : Resumption V E) (hl : l.Resumable how k) :
    (cycle m l how).Keeps Passage.recorder (Verdict.Orderly l.program l.form) k := by
  refine (Talk.keeps_bind _).2 ((l.resume_orderly how hl).mono ?_)
  rintro k ⟨l', a⟩ ⟨⟨hp, hf⟩, ha⟩
  have hp : l'.program = l.program := hp
  have hf : l'.form = l.form := hf
  rw [← hp, ← hf]
  cases a with
  | raises e => exact finish_orderly l' _ ha
  | ends value => exact deliver_orderly l' ha fun k hk => hk
  | yields payload =>
    have hread := classify_lasts l'.halted_lasting payload ha
    refine (Talk.keeps_bind _).2 (hread.mono fun k a hk => ?_)
    cases a with
    | error e => exact finish_orderly l' _ hk.closable
    | ok kind => exact settle_orderly l' payload kind hk

/-- Going on after a nested program. -/
lemma proceed_orderly (l : Level V) (r : Except E V) (hl : l.Halted k) :
    (proceed m l r).Keeps Passage.recorder (Verdict.Orderly l.program l.form) k := by
  cases r with
  | ok v => exact cycle_orderly l (.send v) (hl.resumable _)
  | error e => exact finish_orderly l (.error e) hl.closable

/-! ### Whole calls -/

/-- A call that has accepted its program settles it. -/
lemma Course.settled {p : V} {traits : Traits} {form : Form} (hform : m.accept traits = .ok form)
    {k : List (Passage V E)} {r : Except E V}
    (hc : Course m (takeUp m p) (.own ⟨.inspect p .program, .ok traits⟩ :: k) r) :
    Settled p form (.own ⟨.inspect p .program, .ok traits⟩ :: k) r := by
  obtain ⟨a, k', hk, hc⟩ := hc.ask_inv
  obtain ⟨⟨⟩, rfl⟩ := List.cons.inj hk
  have hbegun : Driven (E := E) form.via p [.own ⟨.inspect p .program, .ok traits⟩] [] [] :=
    ⟨rfl, by simp, by simp⟩
  show Verdict.Orderly p form ([_] ++ k) (.leave r)
  refine hc.keeps ?_ ?_ ?_
  · rintro k l how ⟨⟨rfl, rfl⟩, hl⟩
    exact cycle_orderly l how hl
  · rintro k l q h r ⟨⟨rfl, rfl⟩, hl⟩
    exact proceed_orderly l r (l.halted_lasting _ _ rfl hl)
  · simp only [hform]
    refine keeps_ask_recorder.2 fun a => ?_
    have hbarred := hbegun.silent (x := .own ⟨.barred, a⟩) rfl
    cases a with
    | none =>
      refine ⟨⟨Level.opened_program p form, Level.opened_form p form⟩, [], ?_, ?_⟩
      · simpa using hbarred
      · cases form with
        | direct via => exact .inl ⟨rfl, rfl⟩
        | lifted => exact ⟨rfl, rfl⟩
    | some e =>
      have hclosable : (Level.opened p form).Closable ([.own ⟨.inspect p .program, .ok traits⟩] ++
          [.own ⟨.barred, some e⟩]) := by
        refine ⟨[], [], by simpa using hbarred, ?_⟩
        cases form <;> rfl
      simpa using finish_orderly (m := m) _ (.error e) hclosable

end

/-! ### The life of a generator -/

/-- Where a generator stands. -/
inductive Stance where
  | created
  | suspended
  | running
  | closed
  deriving DecidableEq

/-- What there is to know about a generator. -/
structure Life where
  stance : Stance
  /-- Whether it has yielded when it was told to close. -/
  defiant : Bool

section

variable [ErrorLike E]

/-- What an exchange may make of the generator `g` with this protocol. The errors that say that a
generator has yielded when it was told to close are given. -/
inductive Life.Moves (ignored : E → Prop) (via : Protocol) (g : V) :
    Life → Exchange V E → Life → Prop
  | suspends {l : Life} {how : Resumption V E} {v : V} : l.stance ≠ .closed →
    Moves ignored via g l ⟨.resume via g how, .yields v⟩ ⟨.suspended, l.defiant⟩
  | ends {l : Life} {how : Resumption V E} {v : V} :
    Moves ignored via g l ⟨.resume via g how, .ends v⟩ ⟨.closed, l.defiant⟩
  | raises {l : Life} {how : Resumption V E} {e : E} :
    Moves ignored via g l ⟨.resume via g how, .raises e⟩ ⟨.closed, l.defiant⟩
  /-- It is running, or it does not accept what it is resumed with. -/
  | refuses {l : Life} {how : Resumption V E} {e : E} :
    Moves ignored via g l ⟨.resume via g how, .raises e⟩ l
  /-- An asynchronous generator that has ignored a closing lets nothing be thrown into it. -/
  | spurns {l : Life} {e : E} {v : V} : via = .async → l.defiant = true →
    Moves ignored via g l ⟨.resume via g (.throw e), .ends v⟩ l
  | closes {l : Life} {a : Option E} :
    Moves ignored via g l ⟨.close via g, a⟩ ⟨.closed, l.defiant⟩
  | busy {l : Life} {e : E} : l.stance = .running →
    Moves ignored via g l ⟨.close via g, some e⟩ l
  | ignores {l : Life} {e : E} : l.stance ≠ .closed → ignored e →
    Moves ignored via g l ⟨.close via g, some e⟩ ⟨.suspended, true⟩
  /-- An asynchronous generator that has ignored a closing is not closed again. -/
  | persists {l : Life} {e : E} : via = .async → l.defiant = true →
    ErrorLike.nature e = .asyncEnded → Moves ignored via g l ⟨.close via g, some e⟩ l
  /-- While a request is answered that is not for it, other code may do anything to it. -/
  | elsewhere {l l' : Life} {x : Exchange V E} : (∀ how, x.request ≠ .resume via g how) →
    x.request ≠ .close via g → x.request ≠ .handled →
    (l.stance = .closed → l'.stance = .closed) → Moves ignored via g l x l'
  /-- Nothing happens when an error is no longer handled. -/
  | handled {l : Life} : Moves ignored via g l ⟨.handled, ()⟩ l

/-- What a history may make of a generator. -/
def Lives (ignored : E → Prop) (via : Protocol) (g : V) : Life → History V E → Life → Prop
  | l, [], l' => l' = l
  | l, x :: h, l' => ∃ l₁, Life.Moves ignored via g l x l₁ ∧ Lives ignored via g l₁ h l'

variable {ignored : E → Prop} {via : Protocol} {g : V} {l l' : Life} {h h' : History V E}

lemma lives_append : Lives ignored via g l (h ++ h') l' ↔
    ∃ l₁, Lives ignored via g l h l₁ ∧ Lives ignored via g l₁ h' l' := by
  induction h generalizing l with
  | nil => exact ⟨fun hl => ⟨l, rfl, hl⟩, fun ⟨_, h₁, hl⟩ => h₁ ▸ hl⟩
  | cons x h ih =>
    constructor
    · rintro ⟨l₀, hx, hl⟩
      obtain ⟨l₁, h₁, hl⟩ := ih.1 hl
      exact ⟨l₁, ⟨l₀, hx, h₁⟩, hl⟩
    · rintro ⟨l₁, ⟨l₀, hx, h₁⟩, hl⟩
      exact ⟨l₀, hx, ih.2 ⟨l₁, h₁, hl⟩⟩

/-- A generator that is closed stays closed. -/
lemma Lives.stays_closed (hl : Lives ignored via g l h l') (hc : l.stance = .closed) :
    l'.stance = .closed := by
  induction h generalizing l with
  | nil => exact hl ▸ hc
  | cons x h ih =>
    obtain ⟨l₁, hx, hl⟩ := hl
    refine ih hl ?_
    cases hx with
    | suspends hn => exact absurd hc hn
    | ignores hn => exact absurd hc hn
    | elsewhere _ _ _ hkeep => exact hkeep hc
    | ends | raises | closes => rfl
    | refuses | spurns | busy | persists | handled => exact hc

/-- Where a generator is left by a call that has accepted it, and has come to this outcome. -/
def Life.LeftBy (ignored : E → Prop) (form : Form) (r : Except E V) (l : Life) : Prop :=
  l.stance = .closed ∨ l.stance = .running ∨ ∃ e, r = .error e ∧
    (l.stance = .suspended ∧ ignored e ∨
      l.defiant = true ∧ form = .direct .async ∧ ErrorLike.nature e = .asyncEnded)

/-- Nothing happens to a generator when errors are no longer handled. -/
lemma Lives.of_handled (n : ℕ) (hl : Lives ignored via g l (List.replicate n ⟨.handled, ()⟩) l') :
    l' = l := by
  induction n generalizing l with
  | zero => exact hl
  | succ n ih =>
    obtain ⟨l₁, hx, hl⟩ := hl
    obtain rfl := ih hl
    cases hx with
    | elsewhere _ _ hn => exact absurd rfl hn
    | handled => rfl

/-- Whatever else happens during a call, its last closing decides where the generator is left. -/
lemma Lives.settled [ValueLike V] (hi : ∀ e, ignored e → ErrorLike.nature e = .ordinary)
    {form : Form} {k : List (Passage V E)} {r : Except E V} (hk : Settled g form k r)
    (hl : Lives ignored form.via g l (exchanges k) l') : l'.LeftBy ignored form r := by
  obtain ⟨c, ⟨rounds, closings, -, ⟨k₀, n, rfl⟩, -⟩, hr⟩ := hk
  rw [exchanges_append, ← List.map_replicate, ← List.map_cons, exchanges_own] at hl
  obtain ⟨l₀, -, l₁, hclose, hl⟩ := lives_append.1 hl
  obtain rfl := hl.of_handled n
  cases hclose with
  | closes => exact .inl rfl
  | busy hrun => exact .inr (.inl hrun)
  | ignores _ he => exact .inr (.inr ⟨_, hr _ rfl (.inl (hi _ he)), .inl ⟨rfl, he⟩⟩)
  | persists hv hd he =>
    have hform : form = .direct .async := by
      cases form with
      | direct via => exact congrArg Form.direct hv
      | lifted => cases hv
    have hout := hr _ rfl (.inr ⟨by rw [hform]; nofun, by rw [he]; nofun⟩)
    exact .inr (.inr ⟨_, hout, .inr ⟨hd, hform, he⟩⟩)
  | elsewhere _ hn => exact absurd rfl hn

end

/-! ### The discipline -/

/-- **Programs are driven and closed by a strict discipline.** A call that takes up a program goes
on by itself, whatever waits for it. If it accepts the program and comes to an outcome,

* what it does to the program itself is a series of rounds, of which the first sends nothing and
  each later one answers a suspension, and then closing it;
* it closes the program once, but a lifted one twice if it closes its lifting, too, and the program
  was suspended;
* each nested call is such a call again;
* a generator is left closed, or running, and closed it stays. Otherwise it has yielded when it was
  told to close: either just now, and that is the outcome; or it is an asynchronous one that had
  done so before, and the outcome is its refusal to be closed again. -/
theorem driven_in_rounds_and_closed [ValueLike V] [ErrorLike E] {m : Manner} {p : V}
    {traits : Traits} {form : Form} (hform : m.accept traits = .ok form) :
    (∀ waiting h (run : Run V E), (Run.active waiting (takeUp m p)).Goes m h run →
      Run.GoesApart m waiting [] (takeUp m p) h run) ∧
    ∀ (h : History V E) (r : Except E V),
      (Run.start m p).Goes m (⟨.inspect p .program, .ok traits⟩ :: h) (.over r) →
      ∃ k rounds closings, exchanges k = ⟨.inspect p .program, .ok traits⟩ :: h ∧
        (∀ q i r', .nested q i r' ∈ k → (Run.start m q).Goes m i (.over r')) ∧
        Driven form.via p k rounds closings ∧
        (closings.length = 1 ∨ form = .lifted ∧ closings.length = 2 ∧ Pending rounds) ∧
        ∀ ignored : E → Prop, (∀ e, ignored e → ErrorLike.nature e = .ordinary) →
          ∀ l later l', Lives ignored form.via p l (exchanges k ++ later) l' →
            ∃ l₁, l₁.LeftBy ignored form r ∧ Lives ignored form.via p l₁ later l' ∧
              (l₁.stance = .closed → l'.stance = .closed) := by
  refine ⟨fun waiting h run hg => hg.apart [], fun h r hg => ?_⟩
  obtain ⟨k, hk, hc⟩ := Run.Goes.course hg
  -- The first passage of the course is the look at the program.
  obtain ⟨a, k', rfl, -⟩ := Course.ask_inv hc
  obtain ⟨⟨⟩, -⟩ := List.cons.inj hk
  have hsettled := Course.settled hform hc
  obtain ⟨c, ⟨rounds, closings, hdriven, -, hclosings⟩, -⟩ := id hsettled
  refine ⟨_, rounds, closings, hk, fun q i r' hq => ?_, hdriven, hclosings, ?_⟩
  · obtain ⟨i', rfl, hi⟩ := hc.nested_course hq
    exact hi.goes []
  · intro ignored hi l later l' hl
    obtain ⟨l₁, h₁, h₂⟩ := lives_append.1 hl
    exact ⟨l₁, h₁.settled hi hsettled, h₂, h₂.stays_closed⟩

/-! ### Generators that ignore a closing -/

section

open Script

/-- A synchronous program has suspended with a function that was not called, and it ignores that its
lifting is closed. -/
def closedInVain (p payload : Value) (e ignoring : Fault) : History Value Fault :=
  [⟨.barred, none⟩, ⟨.resume .sync p (.send .none), .yields payload⟩,
    ⟨.inspect payload .payload, .ok ⟨false, false, false, false, false, true⟩⟩,
    ⟨.complain (.unresolvable payload .uncalled), e⟩, ⟨.handle e, ()⟩,
    ⟨.handle .closing, ()⟩, ⟨.close .sync p, some ignoring⟩, ⟨.handled, ()⟩, ⟨.handled, ()⟩]

lemma closedInVain_goes (p payload : Value) (e e' : Nat) :
    (Run.start .cooperative p).Goes .cooperative (⟨.inspect p .program, .ok synchronous⟩ ::
      closedInVain p payload (.raised .ordinary e) (.raised .ordinary e'))
      (.over (.error (.raised .ordinary e'))) := by
  have htake : (takeUp .cooperative p).Comes
      [⟨.inspect p .program, .ok synchronous⟩, ⟨.barred, none⟩]
      (.again ⟨p, .inr .unstarted⟩ (.send .none) : Verdict Value Fault) :=
    ⟨_, _, rfl, _, _, rfl, rfl, rfl⟩
  have hcycle : (cycle .cooperative ⟨p, .inr .unstarted⟩ (.send .none)).Comes
      (closedInVain p payload (.raised .ordinary e) (.raised .ordinary e')).tail
      (.leave (.error (.raised .ordinary e'))) :=
    ⟨_, _, rfl, _, _, rfl, _, _, rfl, _, _, rfl, _, _, rfl, _, _, rfl, _, _, rfl, _, _, rfl, rfl,
      rfl⟩
  have hend := Run.Goes.of_comes hcycle (.here (Verdict.next .cooperative [] _))
  rw [List.append_nil] at hend
  exact .of_comes htake hend

/-- The case of a lifted generator that ignores its closing: it is closed once, and if it is left
suspended, the outcome is the error that says so. -/
theorem generator_ignores_closing : ∃ k rounds closings,
    exchanges k = ⟨.inspect (.object 0) .program, .ok synchronous⟩ ::
      closedInVain (.object 0) (.object 1) (.raised .ordinary 2) (.raised .ordinary 3) ∧
    Driven .sync (.object 0) k rounds closings ∧ closings.length ≤ 2 ∧
    ∀ l', Lives (· = .raised .ordinary 3) .sync (.object 0) ⟨.created, false⟩ (exchanges k) l' →
      l'.LeftBy (· = .raised .ordinary 3) .lifted
        (.error (.raised .ordinary 3) : Except Fault Value) := by
  obtain ⟨k, rounds, closings, hk, -, hdriven, hclosings, hleft⟩ :=
    (driven_in_rounds_and_closed (m := .cooperative) rfl).2 _ _
      (closedInVain_goes (.object 0) (.object 1) 2 3)
  refine ⟨k, rounds, closings, hk, hdriven, by omega, fun l' hl => ?_⟩
  rw [← List.append_nil (exchanges k)] at hl
  obtain ⟨l₁, hl₁, hl, -⟩ := hleft (· = .raised .ordinary 3) (by rintro _ rfl; rfl) _ [] l' hl
  exact hl ▸ hl₁

/-- An asynchronous generator is started and closed by hand, and ignores that. -/
def handClosed (g payload : Value) (ignoring : Fault) : History Value Fault :=
  [⟨.resume .async g (.send .none), .yields payload⟩, ⟨.close .async g, some ignoring⟩]

/-- A call drives an asynchronous generator to a completion, and is refused when it closes it. -/
def refusedClosing (g completion v : Value) (e : Fault) : History Value Fault :=
  [⟨.inspect g .program, .ok ⟨false, true, false, false, false, false⟩⟩, ⟨.barred, none⟩,
    ⟨.resume .async g (.send .none), .yields completion⟩,
    ⟨.inspect completion .payload, .ok ⟨false, false, false, true, false, false⟩⟩,
    ⟨.report (.finished .cooperative g (.direct .async)), none⟩, ⟨.valueOf completion, .ok v⟩,
    ⟨.close .async g, some e⟩]

lemma refusedClosing_goes (g completion v : Value) (e : Nat) :
    (Run.start .cooperative g).Goes .cooperative
      (refusedClosing g completion v (.raised .asyncEnded e))
      (.over (.error (.raised .asyncEnded e))) := by
  have htake : (takeUp .cooperative g).Comes
      ((refusedClosing g completion v (.raised .asyncEnded e)).take 2)
      (.again ⟨g, .inl .async⟩ (.send .none) : Verdict Value Fault) :=
    ⟨_, _, rfl, _, _, rfl, rfl, rfl⟩
  have hcycle : (cycle .cooperative ⟨g, .inl .async⟩ (.send .none)).Comes
      ((refusedClosing g completion v (.raised .asyncEnded e)).drop 2)
      (.leave (.error (.raised .asyncEnded e))) :=
    ⟨_, _, rfl, _, _, rfl, _, _, rfl, _, _, rfl, _, _, rfl, rfl, rfl⟩
  have hend := Run.Goes.of_comes hcycle (.here (Verdict.next .cooperative [] _))
  rw [List.append_nil] at hend
  exact .of_comes htake hend

/-- An asynchronous generator that was driven by hand and has ignored a closing is then left
suspended by a call whose outcome is not the error that says that a closing was ignored. -/
theorem earlier_defiance_leaves_suspended : ∃ l l' : Life,
    Lives (· = .raised .ordinary 3) .async (.object 0) ⟨.created, false⟩
      (handClosed (.object 0) (.object 1) (.raised .ordinary 3)) l ∧
    (Run.start .cooperative (.object 0)).Goes .cooperative
      (refusedClosing (.object 0) (.object 1) (.object 2) (.raised .asyncEnded 4))
      (.over (.error (.raised .asyncEnded 4))) ∧
    Lives (· = .raised .ordinary 3) .async (.object 0) l
      (refusedClosing (.object 0) (.object 1) (.object 2) (.raised .asyncEnded 4)) l' ∧
    l'.stance = .suspended ∧ (.raised .asyncEnded 4 : Fault) ≠ .raised .ordinary 3 := by
  have hother : ∀ {x : Exchange Value Fault} (l : Life),
      (∀ how, x.request ≠ .resume .async (.object 0) how) →
      x.request ≠ .close .async (.object 0) → x.request ≠ .handled →
      Life.Moves (· = .raised .ordinary 3) .async (.object 0) l x l :=
    fun l h₁ h₂ h₃ => .elsewhere h₁ h₂ h₃ id
  refine ⟨⟨.suspended, true⟩, ⟨.suspended, true⟩, ?_, refusedClosing_goes _ _ _ 4, ?_, rfl,
    by simp⟩
  · exact ⟨_, .suspends nofun, _, .ignores nofun rfl, rfl⟩
  · exact ⟨_, hother _ nofun nofun nofun, _, hother _ nofun nofun nofun, _, .suspends nofun, _,
      hother _ nofun nofun nofun, _, hother _ nofun nofun nofun, _, hother _ nofun nofun nofun, _,
      .persists rfl rfl rfl, rfl⟩

end

end Provision
