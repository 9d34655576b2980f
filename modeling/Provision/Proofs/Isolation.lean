import Mathlib.Logic.Function.Basic
import Provision.Proofs.Echo
import Provision.Proofs.Ownership
import Provision.Proofs.ShortCircuit

/-!
Isolation: runs that go on side by side, and have nothing in common but an environment that is only
read, do what each of them would do alone.

The runs of a `Crowd` take turns in any order. In a turn a run gets on by one step, or whoever
attends to its request does so by one step and has not answered yet: this is how a program gives way
while it waits for something. What it means to share nothing is said by `Separate`: an answer
depends on and changes only what belongs to the run that asks, and brings it nothing that belongs to
another.

* `Party.turn_agrees`, `Party.turn_apart`: what a turn of a run means for itself and for the others;
* `Crowd.play_agrees`: the same for any schedule;
* `concurrent_runs_are_isolated`: every run is at any time where it would be after as many turns
  alone. -/

namespace Provision

variable {V E ι σ : Type}

/-! ### Taking turns -/

/-- Whoever attends to the requests of several runs. A request may take several turns; until the
last one there is no answer. -/
abbrev Attendant (V E ι σ : Type) := ι → (q : Request V E) → σ → Option q.Answer × σ

/-- A run with what it has exchanged so far. -/
structure Party (V E : Type) where
  run : Run V E
  history : History V E

/-- Runs that go on side by side, in the same surroundings. -/
structure Crowd (V E ι σ : Type) where
  parties : ι → Party V E
  state : σ

section

variable [ValueLike V] [ErrorLike E] (m : Manner)

/-- A run that was not taken up yet. -/
def Party.begun (q : V) : Party V E := ⟨Run.start m q, []⟩

/-- One turn of a run. -/
def Party.turn (attend : (q : Request V E) → σ → Option q.Answer × σ) (p : Party V E) (s : σ) :
    Party V E × σ :=
  match p.run with
  | .over _ => (p, s)
  | .active waiting (.done v) => (⟨v.next m waiting, p.history⟩, s)
  | .active waiting (.ask q next) =>
    match attend q s with
    | (none, s') => (p, s')
    | (some a, s') => (⟨.active waiting (next a), p.history ++ [⟨q, a⟩]⟩, s')

/-- A run that has so many turns and is alone. -/
def Party.alone (attend : (q : Request V E) → σ → Option q.Answer × σ) (p : Party V E) :
    ℕ → σ → Party V E × σ
  | 0, s => (p, s)
  | n + 1, s => Party.alone attend (p.turn m attend s).1 n (p.turn m attend s).2

/-- Runs that are started together. -/
def Crowd.begun (programs : ι → V) (s : σ) : Crowd V E ι σ := ⟨fun i => .begun m (programs i), s⟩

variable [DecidableEq ι]

/-- One of the runs has a turn. -/
def Crowd.turn (attend : Attendant V E ι σ) (c : Crowd V E ι σ) (i : ι) : Crowd V E ι σ :=
  let x := (c.parties i).turn m (attend i) c.state
  ⟨Function.update c.parties i x.1, x.2⟩

/-- The runs have turns in this order. -/
def Crowd.play (attend : Attendant V E ι σ) (c : Crowd V E ι σ) (schedule : List ι) :
    Crowd V E ι σ :=
  schedule.foldl (Crowd.turn m attend) c

end

/-! ### Sharing nothing -/

/-- Whether a request is a lookup in the environment. -/
def Request.isFind : Request V E → Bool
  | .find _ => true
  | _ => false

/-- The runs share nothing but an environment whose lookups have no effect and always come to the
same. Each has a holding; `alike i` relates states of the surroundings that differ only in what does
not matter to the run `i`. -/
structure Separate [ValueLike V] [ErrorLike E] (attend : Attendant V E ι σ) (env : V → Finding V E)
    (holding : ι → Holding V E) (alike : ι → σ → σ → Prop) : Prop where
  finds (i : ι) (name : V) (s : σ) : attend i (.find name) s = (some (env name), s)
  /-- What belongs to a run is all that its requests depend on. -/
  agrees {i : ι} {q : Request V E} {s t : σ} : q.isFind = false → (holding i).request q →
    alike i s t → Agree (alike i) (attend i q s) (attend i q t)
  /-- The requests of the others change nothing that belongs to a run. -/
  apart {i j : ι} {q : Request V E} {s t : σ} : j ≠ i → q.isFind = false → (holding j).request q →
    alike i s t → alike i (attend j q s).2 t
  /-- An answer brings a run only what belongs to it. -/
  gives {i : ι} {q : Request V E} {s : σ} {a : q.Answer} : (holding i).request q →
    (attend i q s).1 = some a → (holding i).answer q a

section

variable [ValueLike V] [ErrorLike E] {m : Manner} {attend : Attendant V E ι σ}
  {env : V → Finding V E} {holding : ι → Holding V E} {alike : ι → σ → σ → Prop}

lemma Separate.all_agree (hsep : Separate attend env holding alike) {i : ι} {q : Request V E}
    {s t : σ} (hq : (holding i).request q) (hst : alike i s t) :
    Agree (alike i) (attend i q s) (attend i q t) := by
  cases hf : q.isFind with
  | false => exact hsep.agrees hf hq hst
  | true =>
    cases q with
    | find name =>
      rw [hsep.finds, hsep.finds]
      exact ⟨rfl, hst⟩
    | _ => cases hf

lemma Separate.all_apart (hsep : Separate attend env holding alike) {i j : ι} (hij : j ≠ i)
    {q : Request V E} {s t : σ} (hq : (holding j).request q) (hst : alike i s t) :
    alike i (attend j q s).2 t := by
  cases hf : q.isFind with
  | false => exact hsep.apart hij hf hq hst
  | true =>
    cases q with
    | find name =>
      rw [hsep.finds]
      exact hst
    | _ => cases hf

/-- A turn of a run comes to the same in states that are alike to it. -/
lemma Party.turn_agrees (hsep : Separate attend env holding alike) {i : ι} {p : Party V E} {s t : σ}
    (hp : p.run.Within (holding i)) (hst : alike i s t) :
    Agree (alike i) (p.turn m (attend i) s) (p.turn m (attend i) t) := by
  obtain ⟨⟨waiting, talk⟩ | r, history⟩ := p
  · cases talk with
    | done v => exact ⟨rfl, hst⟩
    | ask q next =>
      obtain ⟨hanswer, hstate⟩ := hsep.all_agree (within_ask.1 hp.2).1 hst
      simp only [Party.turn]
      cases hs : attend i q s with
      | mk a s' =>
        cases ht : attend i q t with
        | mk b t' =>
          rw [hs, ht] at hanswer hstate
          obtain rfl : b = a := hanswer
          cases b <;> exact ⟨rfl, hstate⟩
  · exact ⟨rfl, hst⟩

/-- A turn of another run makes no difference to a run. -/
lemma Party.turn_apart (hsep : Separate attend env holding alike) {i j : ι} (hij : j ≠ i)
    {p : Party V E} {s t : σ} (hp : p.run.Within (holding j)) (hst : alike i s t) :
    alike i (p.turn m (attend j) s).2 t := by
  obtain ⟨⟨waiting, talk⟩ | r, history⟩ := p
  · cases talk with
    | done v => exact hst
    | ask q next =>
      have hstate := hsep.all_apart hij (within_ask.1 hp.2).1 hst
      simp only [Party.turn]
      cases hs : attend j q s with
      | mk a s' =>
        rw [hs] at hstate
        cases a <;> exact hstate
  · exact hst

/-- A run stays within its holding. -/
lemma Party.turn_within (hsep : Separate attend env holding alike) {i : ι} {p : Party V E} (s : σ)
    (hp : p.run.Within (holding i)) : (p.turn m (attend i) s).1.run.Within (holding i) := by
  obtain ⟨⟨waiting, talk⟩ | r, history⟩ := p
  · cases talk with
    | done v => exact Verdict.next_within hp.1 hp.2
    | ask q next =>
      have hask := within_ask.1 hp.2
      simp only [Party.turn]
      cases hs : attend i q s with
      | mk a s' =>
        cases a with
        | none => exact hp
        | some a => exact ⟨hp.1, hask.2 a (hsep.gives hask.1 (by rw [hs]))⟩
  · exact hp

/-- What a run has exchanged is a history of it. -/
lemma Party.turn_goes {r : Run V E} {p : Party V E} {s : σ}
    {attend : (q : Request V E) → σ → Option q.Answer × σ} (hp : r.Goes m p.history p.run) :
    r.Goes m (p.turn m attend s).1.history (p.turn m attend s).1.run := by
  obtain ⟨⟨waiting, talk⟩ | r, history⟩ := p
  · cases talk with
    | done v =>
      have := hp.append (.decided (.here (v.next m waiting)))
      rwa [List.append_nil] at this
    | ask q next =>
      simp only [Party.turn]
      cases attend q s with
      | mk a s' =>
        cases a with
        | none => exact hp
        | some a => exact hp.append (.answered a (.here _))
  · exact hp

/-! ### Schedules -/

lemma Party.alone_add (attend : (q : Request V E) → σ → Option q.Answer × σ) (n k : ℕ)
    (p : Party V E) (s : σ) : p.alone m attend (n + k) s =
      (p.alone m attend n s).1.alone m attend k (p.alone m attend n s).2 := by
  induction n generalizing p s with
  | zero => rw [Nat.zero_add, Party.alone]
  | succ n ih =>
    rw [Nat.add_right_comm]
    exact ih _ _

/-- A run that is over stays as it is. -/
lemma Party.alone_of_over (attend : (q : Request V E) → σ → Option q.Answer × σ) (k : ℕ)
    {p : Party V E} {r : Except E V} (hp : p.run = .over r) (s : σ) :
    p.alone m attend k s = (p, s) := by
  obtain ⟨run, history⟩ := p
  obtain rfl : run = .over r := hp
  induction k with
  | zero => rfl
  | succ k ih => exact ih

variable [DecidableEq ι]

/-- Whatever the schedule, each run is where it would be after as many turns alone, and so is what
matters to it. -/
lemma Crowd.play_agrees (hsep : Separate attend env holding alike) (schedule : List ι)
    {c : Crowd V E ι σ} (hc : ∀ i, (c.parties i).run.Within (holding i)) {i : ι} {t : σ}
    (ht : alike i c.state t) :
    (c.play m attend schedule).parties i =
        ((c.parties i).alone m (attend i) (schedule.count i) t).1 ∧
      alike i (c.play m attend schedule).state
        ((c.parties i).alone m (attend i) (schedule.count i) t).2 := by
  induction schedule generalizing c t with
  | nil => exact ⟨rfl, ht⟩
  | cons j schedule ih =>
    have hc' : ∀ k, ((c.turn m attend j).parties k).run.Within (holding k) := by
      intro k
      by_cases hk : k = j
      · subst hk
        simpa [Crowd.turn] using Party.turn_within hsep c.state (hc k)
      · simpa [Crowd.turn, hk] using hc k
    by_cases hij : j = i
    · subst hij
      obtain ⟨hparty, hstate⟩ := Party.turn_agrees (m := m) hsep (hc j) ht
      obtain ⟨h₁, h₂⟩ := ih hc' hstate
      have hown : (c.turn m attend j).parties j =
          ((c.parties j).turn m (attend j) t).1 := by simpa [Crowd.turn] using hparty.symm
      rw [List.count_cons_self, Party.alone]
      rw [hown] at h₁ h₂
      exact ⟨h₁, h₂⟩
    · obtain ⟨h₁, h₂⟩ := ih hc' (Party.turn_apart (m := m) hsep hij (hc j) ht)
      have hown : (c.turn m attend j).parties i = c.parties i := by
        simp [Crowd.turn, Ne.symm hij]
      rw [List.count_cons_of_ne hij]
      rw [hown] at h₁ h₂
      exact ⟨h₁, h₂⟩

/-- What every run has exchanged is a history of it. -/
lemma Crowd.play_goes (schedule : List ι) {c : Crowd V E ι σ} {programs : ι → V}
    (hc : ∀ i, (Run.start m (programs i)).Goes m (c.parties i).history (c.parties i).run) (i : ι) :
    (Run.start m (programs i)).Goes m ((c.play m attend schedule).parties i).history
      ((c.play m attend schedule).parties i).run := by
  induction schedule generalizing c with
  | nil => exact hc i
  | cons j schedule ih =>
    refine ih fun k => ?_
    by_cases hk : k = j
    · subst hk
      simpa [Crowd.turn] using Party.turn_goes (hc k)
    · simpa [Crowd.turn, hk] using hc k

/-- **Concurrent runs are isolated.** Runs are started together and have turns in any order. If they
share nothing but an environment that is only read, then

* each run has at any time come as far as it would have come alone in as many turns, with the same
  outcome, lookups and resumptions, and what it has exchanged is a history of it;
* a run that comes to an outcome alone comes to it in any schedule that gives it enough turns,
  whatever becomes of the others. -/
theorem concurrent_runs_are_isolated (hsep : Separate attend env holding alike) (programs : ι → V)
    (hprograms : ∀ i, (holding i).value (programs i)) (s : σ) (hs : ∀ i, alike i s s)
    (schedule : List ι) (i : ι) :
    let alone n := ((Party.begun m (programs i)).alone m (attend i) n s).1
    let together := ((Crowd.begun m programs s).play m attend schedule).parties i
    together = alone (schedule.count i) ∧
      (Run.start m (programs i)).Goes m together.history together.run ∧
      ∀ n r, (alone n).run = .over r → n ≤ schedule.count i → together = alone n := by
  intro alone together
  have hagrees : together = alone (schedule.count i) :=
    (Crowd.play_agrees hsep schedule (fun j => start_within (hprograms j)) (hs i)).1
  refine ⟨hagrees, Crowd.play_goes schedule (fun j => .here _) i, fun n r hr hn => ?_⟩
  obtain ⟨k, hk⟩ := Nat.exists_eq_add_of_le hn
  have hover : alone (n + k) = alone n := by
    show ((Party.begun m (programs i)).alone m (attend i) (n + k) s).1 = _
    rw [Party.alone_add, Party.alone_of_over _ _ hr]
  rw [hagrees, hk, hover]

end

/-! ### One run fails beside another -/

section

open Script

/-- What an asynchronous program does when it is resumed, and what becomes of it: it waits once,
asks for a service, and then ends, but the program `1` fails. -/
def stride (n : ℕ) : ℕ → Option (Signal Value Fault) × ℕ
  | 0 => (none, 1)
  | 1 => (some (.yields .none), 2)
  | k => (some (if n = 1 then .raises (.raised .ordinary 0) else .ends .none), k)

/-- Any number of such programs. What has become of each is all there is to know. -/
def strolling : Attendant Value Fault ℕ (ℕ → ℕ)
  | _, .resume _ (.object n) _, s => ((stride n (s n)).1, Function.update s n (stride n (s n)).2)
  | _, .inspect _ .program, s => (some (.ok ⟨false, true, false, false, false, false⟩), s)
  | _, .inspect _ .payload, s => (some (.ok ⟨true, false, false, false, false, false⟩), s)
  | _, .resume .., s => (some (.ends .none), s)
  | _, .find _, s => (some (.found .none), s)
  | _, .due, s => (some .goOn, s)
  | _, .nameOf _, s | _, .valueOf _, s | _, .build .., s => (some (.ok .none), s)
  | _, .complain _, s => (some .spent, s)
  | _, .handle _, s | _, .handled, s => (some (), s)
  | _, .barred, s | _, .close .., s | _, .report _, s | _, .discard _, s => (some none, s)

/-- The only object that belongs to the run `i` is its program. -/
def stroll (i : ℕ) : Holding Value Fault where
  value v := ∀ n, v = .object n → n = i
  error _ := True
  nothing := nofun
  exit := trivial
  stopped _ := id

lemma stride_nothing {n k : ℕ} {a : Signal Value Fault} (ha : (stride n k).1 = some a) :
    a = .yields .none ∨ a = .ends .none ∨ ∃ e, a = .raises e := by
  match k with
  | 0 => cases ha
  | 1 =>
    cases ha
    exact .inl rfl
  | k + 2 =>
    cases ha
    split
    · exact .inr (.inr ⟨_, rfl⟩)
    · exact .inr (.inl rfl)

lemma strolling_separate :
    Separate strolling (fun _ => .found .none) stroll (fun i s t => t i = s i) where
  finds i name s := rfl
  agrees := by
    rintro i q s t - hq hst
    cases q with
    | resume via p how =>
      cases p with
      | object n =>
        obtain rfl := hq.1 n rfl
        exact ⟨by simp [strolling, hst], by simp [strolling, hst]⟩
      | _ => exact ⟨rfl, hst⟩
    | inspect v role => cases role <;> exact ⟨rfl, hst⟩
    | _ => exact ⟨rfl, hst⟩
  apart := by
    rintro i j q s t hij - hq hst
    cases q with
    | resume via p how =>
      cases p with
      | object n =>
        obtain rfl := hq.1 n rfl
        simpa [strolling, Function.update_of_ne (Ne.symm hij)] using hst
      | _ => exact hst
    | inspect v role => cases role <;> exact hst
    | _ => exact hst
  gives := by
    rintro i q s a hq ha
    cases q with
    | resume via p how =>
      obtain rfl | rfl | ⟨e, rfl⟩ : a = .yields .none ∨ a = .ends .none ∨ ∃ e, a = .raises e := by
        cases p with
        | object n => exact stride_nothing ha
        | _ =>
          cases ha
          exact .inr (.inl rfl)
      · exact (stroll i).nothing
      · exact (stroll i).nothing
      · trivial
    | inspect v role => cases role <;> cases ha <;> trivial
    | nameOf | valueOf | build =>
      cases ha
      exact (stroll i).nothing
    | find name =>
      cases ha
      exact (stroll i).nothing
    | due =>
      cases ha
      trivial
    | complain | handle | handled => trivial
    | barred | close | report | discard =>
      cases ha
      nofun

/-- One run fails, and the other one comes to where it comes to alone. -/
theorem failing_run_changes_no_other :
    let alone n := ((Party.begun .cooperative (.object 0)).alone .cooperative (strolling 0) n
      fun _ => 0).1
    let schedule := (List.replicate 20 [0, 1]).flatten
    let together := (Crowd.begun .cooperative .object fun _ => 0).play .cooperative strolling schedule
    (together.parties 1).run = .over (.error (.raised .ordinary 0)) ∧
      together.parties 0 = alone 20 ∧ (alone 20).run = .over (.ok .none) := by
  have hisolated := concurrent_runs_are_isolated (m := .cooperative) strolling_separate .object
    (fun i n hn => (Value.object.inj hn).symm) (fun _ => 0) (fun i => rfl)
    (List.replicate 20 [0, 1]).flatten
  refine ⟨?_, (hisolated 0).1, rfl⟩
  rw [(hisolated 1).1]
  rfl

end

end Provision
