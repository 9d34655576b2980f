import Mathlib.Logic.Relation
import Provision.Proofs.Conversation

/-!
Sharing: any number of runs that share one cancellation.

A `Pool` is a flag and the calls that look at it. In one step (`Pool.Step`) somebody requests a stop,
or a call begins, or some call gets an answer and goes on to its next request. The steps come in any
order, so the calls are interleaved in every way, and the code of programs, environments and
implementations may do all this in the middle of a call. The one thing that nobody gets in between
with is a call that is about to read the name of a token: it does that in one breath with looking at
the flag.

* `Pool.Reaches.sound`: what every call of a pool has exchanged is a history of its run, and was
  right about the flag;
* `Pool.Step.continues`, `Pool.Reaches.continues`: once the flag is raised it stays as it is, no request to stop puts
  anything into the log, and every call goes on with answers that are right about it.
-/

namespace Provision

variable {V E : Type}

/-! ### Runs between two answers -/

/-- The request that a run has put and that is not answered yet. -/
def Run.asks : Run V E → Option (Request V E)
  | .active _ (.ask q _) => some q
  | _ => none

/-- A run that has put a request, or is over. -/
def Run.Poised (r : Run V E) : Prop := (∃ q, r.asks = some q) ∨ ∃ result, r = .over result

/-- A run that is not just about to read the name of a token. -/
def Run.Parked (r : Run V E) : Prop := ∀ token, r.asks ≠ some (.nameOf token)

/-- The requests of a history, and the one that the run it led to has put. -/
def Run.puts (r : Run V E) (h : History V E) : List (Request V E) :=
  h.map (·.request) ++ r.asks.toList

lemma Run.asks_eq {r : Run V E} {q : Request V E} (h : r.asks = some q) :
    ∃ waiting next, r = .active waiting (.ask q next) := by
  match r, h with
  | .active waiting (.ask q' next), h =>
    obtain rfl := Option.some.inj h
    exact ⟨waiting, next, rfl⟩

section

variable [ValueLike V] [ErrorLike E]

/-- A run that has put a request stays where it is until it is answered. -/
lemma Run.Goes.of_asks {m : Manner} {r r' : Run V E} {q : Request V E} (hq : r.asks = some q)
    (hr : r.Goes m [] r') : r' = r := by
  obtain ⟨waiting, next, rfl⟩ := Run.asks_eq hq
  cases hr
  rfl

/-- A run that has put a request or is over goes nowhere without an answer. -/
lemma Run.Goes.of_poised {m : Manner} {r r' : Run V E} (hp : r.Poised) (hr : r.Goes m [] r') :
    r' = r := by
  obtain ⟨q, hq⟩ | ⟨result, rfl⟩ := hp
  · exact hr.of_asks hq
  · exact hr.of_over.2

/-- After an answer a run goes on until it puts its next request, or is over. -/
lemma Run.Goes.cons_poised {m : Manner} {r r' : Run V E} {x : Exchange V E} {h : History V E}
    (hr : r.Goes m (x :: h) r') (hp : r'.Poised) :
    ∃ r₁, r.Goes m [x] r₁ ∧ r₁.Goes m h r' ∧ r₁.Poised := by
  cases h with
  | nil => exact ⟨r', hr, .here r', hp⟩
  | cons y h =>
    have hr' : r.Goes m ([x] ++ y :: h) r' := hr
    obtain ⟨r₁, hx, hy⟩ := hr'.split
    obtain ⟨waiting, next, hask, hnext⟩ := hy.cons_inv
    exact ⟨_, hx.append hask, .answered _ hnext, .inl ⟨_, rfl⟩⟩

/-- The request of a poised run is the next one in its history. -/
lemma Run.Goes.asks_of_cons {m : Manner} {r r' : Run V E} {x : Exchange V E} {h : History V E}
    (hp : r.Poised) (hr : r.Goes m (x :: h) r') : r.asks = some x.request := by
  obtain ⟨q, hq⟩ | ⟨result, rfl⟩ := hp
  · obtain ⟨waiting, next, hask, -⟩ := hr.cons_inv
    obtain rfl := hask.of_asks hq
    rfl
  · obtain ⟨h', -⟩ := hr.of_over
    cases h'

/-- Wherever a request was put, the run has come to where it puts it. -/
lemma Run.Goes.put_inv {m : Manner} {r r' : Run V E} {h : History V E} (hr : r.Goes m h r')
    {qs qs' : List (Request V E)} {q : Request V E} (hq : r'.puts h = qs ++ q :: qs') :
    ∃ h₁ h₂ r₁, h = h₁ ++ h₂ ∧ h₁.map (·.request) = qs ∧ r.Goes m h₁ r₁ ∧ r₁.asks = some q := by
  have hlast : r'.asks.toList = q :: qs' → r'.asks = some q := by
    cases r'.asks with
    | none => exact fun h => by cases h
    | some q' => exact fun h => by cases h; rfl
  obtain ⟨as, rfl, has⟩ | ⟨bs, hbs, hcons⟩ := List.append_eq_append_iff.1 hq
  · cases as with
    | nil => exact ⟨h, [], r', by simp, by simp, hr, hlast has⟩
    | cons a as => cases ha : r'.asks <;> simp [ha] at has
  · cases bs with
    | nil => exact ⟨h, [], r', by simp, by simpa using hbs, hr, hlast hcons.symm⟩
    | cons b bs =>
      obtain ⟨rfl, -⟩ := List.cons.inj hcons
      obtain ⟨h₁, h₂, rfl, rfl, hx⟩ := List.map_eq_append_iff.1 hbs
      obtain ⟨x, h₃, rfl, rfl, -⟩ := List.map_eq_cons_iff.1 hx
      obtain ⟨r₁, hr₁, hr₂⟩ := hr.split
      obtain ⟨waiting, next, hask, -⟩ := hr₂.cons_inv
      have hat := hr₁.append hask
      rw [List.append_nil] at hat
      exact ⟨h₁, x :: h₃, _, rfl, rfl, hat, rfl⟩

/-! ### Calls and pools -/

/-- A call of a driver: its program, what it has exchanged so far, and where its run stands. -/
structure Call (V E : Type) where
  manner : Manner
  program : V
  history : History V E
  run : Run V E

/-- A call that has just begun. -/
def Call.begun (m : Manner) (program : V) : Call V E := ⟨m, program, [], Run.start m program⟩

/-- A flag, the reasons that were put into the log, and the calls that share the flag. -/
structure Pool (V E : Type) where
  flag : Cancellation V
  records : List V
  calls : List (Call V E)

/-- Requests a stop. -/
def Pool.request (p : Pool V E) (reason : V) : Pool V E :=
  ⟨p.flag.cancel reason, p.records ++ (p.flag.announced reason).toList, p.calls⟩

/-- One step of a pool. -/
inductive Pool.Step (k : Stopper V E) : Pool V E → Pool V E → Prop
  /-- Somebody requests a stop. -/
  | requests {p : Pool V E} (reason : V) (parked : ∀ c ∈ p.calls, c.run.Parked) :
    Step k p (p.request reason)
  /-- A driver is called. -/
  | begins {p : Pool V E} (m : Manner) (program : V) (parked : ∀ c ∈ p.calls, c.run.Parked) :
    Step k p { p with calls := p.calls ++ [.begun m program] }
  /-- A call gets an answer, which is right about the flag, and goes on to its next request. -/
  | answers {p : Pool V E} {i : ℕ} {c : Call V E} {x : Exchange V E} {r : Run V E}
    (at_i : p.calls[i]? = some c)
    (parked : ∀ j c', j ≠ i → p.calls[j]? = some c' → c'.run.Parked)
    (right : k.Answers p.flag x) (goes : c.run.Goes c.manner [x] r) (poised : r.Poised) :
    Step k p { p with calls := p.calls.set i { c with history := c.history ++ [x], run := r } }

/-- Any number of steps. -/
abbrev Pool.Reaches (k : Stopper V E) : Pool V E → Pool V E → Prop :=
  Relation.ReflTransGen (Pool.Step k)

/-! ### What holds of every pool -/

/-- What holds of a call as long as it lasts: its history is one of its run, and the monitor of
conversations may have watched it. -/
structure Call.Sound (k : Stopper V E) (flag : Cancellation V) (c : Call V E) : Prop where
  poised : c.run.Poised
  goes : (Run.start c.manner c.program).Goes c.manner c.history c.run
  watched : ∃ f s, k.conversation.Watches ⟨f, .outside⟩ c.history s ∧ s.flag.Grows flag ∧
    (¬ c.run.Parked → s.flag = flag)

/-- Every call of a pool is sound. -/
def Pool.Sound (k : Stopper V E) (p : Pool V E) : Prop := ∀ c ∈ p.calls, c.Sound k p.flag

variable {k : Stopper V E} {p p' : Pool V E}

/-- A call that has just begun is sound. -/
lemma begun_sound (flag : Cancellation V) (m : Manner) (program : V) :
    (Call.begun m program).Sound k flag where
  poised := .inl ⟨_, rfl⟩
  goes := .here _
  watched := ⟨flag, _, rfl, .inl rfl, fun _ => rfl⟩

/-- An answer that is right about the flag keeps a call sound. -/
lemma Call.Sound.answered {flag : Cancellation V} {c : Call V E} (hc : c.Sound k flag)
    {x : Exchange V E} {r : Run V E} (hx : k.Answers flag x) (hr : c.run.Goes c.manner [x] r)
    (hp : r.Poised) : Call.Sound k flag { c with history := c.history ++ [x], run := r } where
  poised := hp
  goes := hc.goes.append hr
  watched := by
    obtain ⟨f, s, hs, hflag, hpark⟩ := hc.watched
    refine ⟨f, ⟨flag, s.turn.next x⟩, hs.append ⟨_, ⟨flag, hflag, ?_, hx, rfl⟩, rfl⟩, .inl rfl,
      fun _ => rfl⟩
    intro token htoken
    refine (hpark fun hparked => hparked token ?_).symm
    rw [hr.asks_of_cons hc.poised, htoken]

/-- A flag that is raised while a call is parked keeps it sound. -/
lemma Call.Sound.grows {flag flag' : Cancellation V} {c : Call V E} (hc : c.Sound k flag)
    (hp : c.run.Parked) (hf : flag.Grows flag') : c.Sound k flag' where
  poised := hc.poised
  goes := hc.goes
  watched := by
    obtain ⟨f, s, hs, hflag, -⟩ := hc.watched
    exact ⟨f, s, hs, hflag.trans hf, fun h => absurd hp h⟩

/-- One step keeps every call sound. -/
lemma Pool.Step.sound (hs : Pool.Step k p p') (hp : p.Sound k) : p'.Sound k := by
  cases hs with
  | requests reason parked =>
    exact fun c hc => (hp c hc).grows (parked c hc) (.inr ⟨reason, rfl⟩)
  | begins m program parked =>
    intro c hc
    obtain hc | hc := List.mem_append.1 hc
    · exact hp c hc
    · obtain rfl := List.mem_singleton.1 hc
      exact begun_sound p.flag m program
  | answers at_i parked right goes poised =>
    intro c hc
    obtain hc | rfl := List.mem_or_eq_of_mem_set hc
    · exact hp c hc
    · exact (hp _ (List.mem_of_getElem? at_i)).answered right goes poised

/-- Every call of a pool that began with none is sound. -/
lemma Pool.Reaches.sound (hr : Pool.Reaches k p p') (hp : p.calls = []) : p'.Sound k := by
  induction hr with
  | refl =>
    intro c hc
    rw [hp] at hc
    cases hc
  | tail _ hs ih => exact hs.sound ih

/-! ### Once the flag is raised -/

/-- A call has gone on, with answers that are right about one flag. -/
structure Call.Continues (k : Stopper V E) (flag : Cancellation V) (c : Call V E)
    (h : History V E) (c' : Call V E) : Prop where
  manner : c'.manner = c.manner
  program : c'.program = c.program
  history : c'.history = c.history ++ h
  goes : c.run.Goes c.manner h c'.run
  right : ∀ x ∈ h, k.Answers flag x

lemma Call.Continues.refl (flag : Cancellation V) (c : Call V E) :
    Call.Continues k flag c [] c :=
  ⟨rfl, rfl, (List.append_nil _).symm, .here _, fun _ h => by cases h⟩

lemma Call.Continues.trans {flag : Cancellation V} {c c' c'' : Call V E} {h h' : History V E}
    (hc : Call.Continues k flag c h c') (hc' : Call.Continues k flag c' h' c'') :
    Call.Continues k flag c (h ++ h') c'' where
  manner := hc'.manner.trans hc.manner
  program := hc'.program.trans hc.program
  history := by rw [hc'.history, hc.history, List.append_assoc]
  goes := by
    have hgoes := hc'.goes
    rw [hc.manner] at hgoes
    exact hc.goes.append hgoes
  right x hx := (List.mem_append.1 hx).elim (hc.right x) (hc'.right x)

/-- A step after the flag was raised: it stays as it is, a request to stop is not put into the log,
and no call does more than get an answer that is right about the flag. -/
lemma Pool.Step.continues (hs : Pool.Step k p p') (hp : p.flag.cancelled = true) :
    p'.flag = p.flag ∧ p'.records = p.records ∧
    ∀ (i : ℕ) (c : Call V E), p.calls[i]? = some c →
      ∃ h c', p'.calls[i]? = some c' ∧ Call.Continues k p.flag c h c' := by
  cases hs with
  | requests reason parked =>
    refine ⟨?_, ?_, fun i c hc => ⟨[], c, hc, .refl _ _⟩⟩
    · show p.flag.cancel reason = p.flag
      rw [Cancellation.cancel, if_pos hp]
    · show p.records ++ (p.flag.announced reason).toList = p.records
      rw [Cancellation.announced, if_pos hp, Option.toList_none, List.append_nil]
  | begins m program parked =>
    refine ⟨rfl, rfl, fun i c hc => ⟨[], c, ?_, .refl _ _⟩⟩
    obtain ⟨hi, -⟩ := List.getElem?_eq_some_iff.1 hc
    rw [List.getElem?_append_left hi]
    exact hc
  | @answers j c x r at_j parked right goes poised =>
    refine ⟨rfl, rfl, fun i c₁ hc₁ => ?_⟩
    by_cases hij : j = i
    · subst hij
      obtain rfl := Option.some.inj (at_j.symm.trans hc₁)
      obtain ⟨hj, -⟩ := List.getElem?_eq_some_iff.1 at_j
      refine ⟨[x], _, List.getElem?_set_self hj, rfl, rfl, rfl, goes, ?_⟩
      intro y hy
      obtain rfl := List.mem_singleton.1 hy
      exact right
    · exact ⟨[], c₁, by rw [List.getElem?_set_ne hij]; exact hc₁, .refl _ _⟩

/-- Once the flag is raised, it stays as it is, requests to stop are not put into the log, and the
calls go on with answers that are right about it. -/
lemma Pool.Reaches.continues (hr : Pool.Reaches k p p') (hp : p.flag.cancelled = true) :
    p'.flag = p.flag ∧ p'.records = p.records ∧
    ∀ (i : ℕ) (c : Call V E), p.calls[i]? = some c →
      ∃ h c', p'.calls[i]? = some c' ∧ Call.Continues k p.flag c h c' := by
  induction hr with
  | refl => exact ⟨rfl, rfl, fun i c hc => ⟨[], c, hc, .refl _ _⟩⟩
  | tail _ hs ih =>
    obtain ⟨hflag, hrecords, hcalls⟩ := ih
    have hraised := hp
    rw [← hflag] at hraised
    obtain ⟨hflag', hrecords', hcalls'⟩ := hs.continues hraised
    refine ⟨hflag'.trans hflag, hrecords'.trans hrecords, fun i c hc => ?_⟩
    obtain ⟨h, c', hc', hcc⟩ := hcalls i c hc
    obtain ⟨h', c'', hc'', hcc'⟩ := hcalls' i c' hc'
    rw [hflag] at hcc'
    exact ⟨h ++ h', c'', hc'', hcc.trans hcc'⟩

/-- A call that has the pool for itself may get any answers that are right about the flag. -/
lemma Pool.reaches_alone {flag : Cancellation V} {records : List V} {c : Call V E}
    {h : History V E} {r : Run V E} (hg : c.run.Goes c.manner h r) (hp : r.Poised)
    (hc : c.run.Poised) (hh : ∀ x ∈ h, k.Answers flag x) :
    Pool.Reaches k ⟨flag, records, [c]⟩
      ⟨flag, records, [{ c with history := c.history ++ h, run := r }]⟩ := by
  induction h generalizing c with
  | nil =>
    obtain rfl := hg.of_poised hc
    rw [List.append_nil]
  | cons x h ih =>
    obtain ⟨r₁, hr₁, hg₁, hp₁⟩ := hg.cons_poised hp
    have hstep : Pool.Step k ⟨flag, records, [c]⟩
        ⟨flag, records, [{ c with history := c.history ++ [x], run := r₁ }]⟩ :=
      .answers (i := 0) rfl (by
        rintro (_ | j) c' hj hc'
        · exact absurd rfl hj
        · cases hc') (hh x List.mem_cons_self) hr₁ hp₁
    have hmore := ih (c := { c with history := c.history ++ [x], run := r₁ }) hg₁ hp₁
      fun y hy => hh y (List.mem_cons_of_mem _ hy)
    rw [List.append_assoc] at hmore
    exact .head hstep hmore

end

end Provision
