import Mathlib.Tactic.Common
import Provision.Driver

/-!
Histories: what a run has exchanged with its host, and how it got on with that.

A run does nothing to its surroundings except by its requests, so whatever is said about all its
surroundings is said about all its histories. `Run.Goes` is the run's side of a history: it puts the
requests in this order if it gets the answers. `Host.Answers` is the other side: a host gives the
answers if it is asked in this order.

* `Talk.comes_bind`: the histories of two talks in turn are those of the first followed by those of
  the second;
* `Run.Goes.append` and `Run.Goes.split`: a history can be cut anywhere;
* `Run.Goes.over_induction`: what is shown verdict by verdict holds of every run that finishes;
* `Run.conduct_recorded` and `Run.conduct_of_goes`: what is conducted with a host is exactly where
  the two sides meet, so that `Run.conduct` may be replaced by histories;
* `Run.Goes.unique`: with one host from one state there is one finished history.
-/

namespace Provision

variable {V E : Type}

/-! ### Exchanges -/

/-- A request and the answer it got. -/
structure Exchange (V E : Type) where
  request : Request V E
  answer : request.Answer

/-- Exchanges in the order in which they were made. -/
abbrev History (V E : Type) := List (Exchange V E)

/-- The program that is closed in an exchange. -/
def Exchange.closes (x : Exchange V E) : Option V :=
  match x.request with
  | .close _ p => some p
  | _ => none

/-- The programs that were closed, in order. -/
def History.closings (h : History V E) : List V := h.filterMap Exchange.closes

lemma History.closings_cons (x : Exchange V E) (h : History V E) :
    History.closings (x :: h) = x.closes.toList ++ History.closings h := by
  unfold History.closings
  cases hx : x.closes <;> simp [hx]

/-- Every request has an answer. -/
lemma Request.nonempty_answer [ErrorLike E] (r : Request V E) : Nonempty r.Answer := by
  let e : E := ErrorLike.exit
  cases r with
  | inspect | nameOf | valueOf | build => exact ⟨.error e⟩
  | barred | close | report | discard => exact ⟨none⟩
  | due => exact ⟨.goOn⟩
  | resume => exact ⟨.raises e⟩
  | find => exact ⟨.failed e⟩
  | complain => exact ⟨e⟩
  | handle | handled => exact ⟨()⟩

/-! ### The histories of a talk -/

namespace Talk

variable {α β : Type}

/-- A talk comes to a value in a history. -/
def Comes : Talk V E α → History V E → α → Prop
  | .done a, h, b => h = [] ∧ b = a
  | .ask r next, h, b => ∃ a h', h = ⟨r, a⟩ :: h' ∧ (next a).Comes h' b

/-- The histories of two talks in turn. -/
lemma comes_bind {f : α → Talk V E β} {b : β} (t : Talk V E α) {h : History V E} :
    (t.bind f).Comes h b ↔ ∃ h₁ a h₂, h = h₁ ++ h₂ ∧ t.Comes h₁ a ∧ (f a).Comes h₂ b := by
  induction t generalizing h with
  | done a =>
    constructor
    · intro hf
      exact ⟨[], a, h, rfl, ⟨rfl, rfl⟩, hf⟩
    · rintro ⟨h₁, a', h₂, rfl, ⟨rfl, rfl⟩, hf⟩
      exact hf
  | ask r next ih =>
    constructor
    · rintro ⟨a, h', rfl, hn⟩
      obtain ⟨h₁, b', h₂, rfl, ht, hf⟩ := (ih a).1 hn
      exact ⟨⟨r, a⟩ :: h₁, b', h₂, rfl, ⟨a, h₁, rfl, ht⟩, hf⟩
    · rintro ⟨h₁, b', h₂, rfl, ⟨a, h', rfl, ht⟩, hf⟩
      exact ⟨a, h' ++ h₂, rfl, (ih a).2 ⟨h', b', h₂, rfl, ht, hf⟩⟩

end Talk

/-! ### The histories of a run -/

section

variable [ValueLike V] [ErrorLike E]

/-- A run goes on from one state to another in a history. -/
inductive Run.Goes (m : Manner) : Run V E → History V E → Run V E → Prop
  | here (r : Run V E) : Goes m r [] r
  | decided {waiting : List (Level V)} {v : Verdict V E} {h : History V E} {r : Run V E} :
    Goes m (v.next m waiting) h r → Goes m (.active waiting (.done v)) h r
  | answered {waiting : List (Level V)} {q : Request V E} {next : q.Answer → Talk V E (Verdict V E)}
      {h : History V E} {r : Run V E} (a : q.Answer) :
    Goes m (.active waiting (next a)) h r → Goes m (.active waiting (.ask q next)) (⟨q, a⟩ :: h) r

namespace Run.Goes

variable {m : Manner} {r r' r'' : Run V E} {h h' : History V E}

/-- One history after another. -/
lemma append (hr : Goes m r h r') (hr' : Goes m r' h' r'') : Goes m r (h ++ h') r'' := by
  induction hr with
  | here => exact hr'
  | decided _ ih => exact .decided (ih hr')
  | answered a _ ih => exact .answered a (ih hr')

/-- A history can be cut between any two exchanges. -/
lemma split (hr : Goes m r (h ++ h') r'') : ∃ r', Goes m r h r' ∧ Goes m r' h' r'' := by
  generalize hk : h ++ h' = k at hr
  induction hr generalizing h with
  | here r =>
    obtain ⟨rfl, rfl⟩ := List.append_eq_nil_iff.1 hk
    exact ⟨r, .here r, .here r⟩
  | decided _ ih =>
    obtain ⟨r', h₁, h₂⟩ := ih hk
    exact ⟨r', .decided h₁, h₂⟩
  | @answered waiting q next k r a hn ih =>
    cases h with
    | nil =>
      subst hk
      exact ⟨_, .here _, .answered a hn⟩
    | cons x h =>
      obtain ⟨rfl, hk'⟩ := List.cons.inj hk
      obtain ⟨r', h₁, h₂⟩ := ih hk'
      exact ⟨r', .answered a h₁, h₂⟩

/-- Before an exchange a run is in a talk that puts the request. -/
lemma cons_inv {x : Exchange V E} (hr : Goes m r (x :: h) r'') : ∃ waiting next,
    Goes m r [] (.active waiting (.ask x.request next)) ∧
      Goes m (.active waiting (next x.answer)) h r'' := by
  generalize hk : x :: h = k at hr
  induction hr with
  | here r => cases hk
  | decided _ ih =>
    obtain ⟨waiting, next, h₁, h₂⟩ := ih hk
    exact ⟨waiting, next, .decided h₁, h₂⟩
  | @answered waiting q next k r a hn _ =>
    obtain ⟨rfl, rfl⟩ := List.cons.inj hk
    exact ⟨waiting, next, .here _, hn⟩

/-- Two histories of one run put the same request first, and as long as it gets the same answer they
go on from the same place. -/
lemma diverge {x y : Exchange V E} {r₁ r₂ : Run V E} (hr : Goes m r (x :: h) r₁)
    (hr' : Goes m r (y :: h') r₂) :
    y.request = x.request ∧ (y = x → ∃ r₀, Goes m r₀ h r₁ ∧ Goes m r₀ h' r₂) := by
  generalize hk : x :: h = k at hr
  induction hr with
  | here r => cases hk
  | decided _ ih =>
    cases hr' with
    | decided hr' => exact ih hr' hk
  | answered a hn _ =>
    obtain ⟨rfl, rfl⟩ := List.cons.inj hk
    cases hr' with
    | answered b hn' =>
      refine ⟨rfl, fun hxy => ?_⟩
      cases hxy
      exact ⟨_, hn, hn'⟩

/-- Two histories of one run that begin alike go on from the same place. -/
lemma after_common (k : History V E) {r₁ r₂ : Run V E} (hr : Goes m r (k ++ h) r₁)
    (hr' : Goes m r (k ++ h') r₂) : ∃ r₀, Goes m r₀ h r₁ ∧ Goes m r₀ h' r₂ := by
  induction k generalizing r with
  | nil => exact ⟨r, hr, hr'⟩
  | cons x k ih =>
    obtain ⟨r₀, h₁, h₂⟩ := (hr.diverge hr').2 rfl
    exact ih h₁ h₂

/-- A talk that has come to its verdict is left. -/
lemma of_comes {waiting : List (Level V)} {v : Verdict V E} {t : Talk V E (Verdict V E)}
    (ht : t.Comes h v) (hr : Goes m (v.next m waiting) h' r) :
    Goes m (.active waiting t) (h ++ h') r := by
  induction t generalizing h with
  | done w =>
    obtain ⟨rfl, rfl⟩ := ht
    exact .decided hr
  | ask q next ih =>
    obtain ⟨a, k, rfl, hn⟩ := ht
    exact .answered a (ih a hn)

/-- A run that is over goes nowhere. -/
lemma of_over {result : Except E V} (hr : Goes m (.over result) h r) : h = [] ∧ r = .over result := by
  cases hr
  exact ⟨rfl, rfl⟩

/-- What holds of a run that is over, and of a run in a talk if it holds after the verdict, holds of
every run that finishes. -/
lemma over_induction {result : Except E V} {motive : Run V E → History V E → Prop}
    (hover : motive (.over result) [])
    (hactive : ∀ waiting t h₁ v h₂, t.Comes h₁ v → motive (v.next m waiting) h₂ →
      motive (.active waiting t) (h₁ ++ h₂))
    (hr : Goes m r h (.over result)) : motive r h := by
  generalize ho : Run.over result = o at hr
  -- The verdict that a talk comes to is kept, so that the talk can be put together again.
  have hall : motive r h ∧ ∀ waiting t, r = .active waiting t →
      ∃ h₁ v h₂, h = h₁ ++ h₂ ∧ t.Comes h₁ v ∧ motive (v.next m waiting) h₂ := by
    induction hr with
    | here r =>
      subst ho
      exact ⟨hover, fun _ _ h => by cases h⟩
    | @decided waiting v h r _ ih =>
      have hv := (ih ho).1
      refine ⟨hactive waiting (.done v) [] v h ⟨rfl, rfl⟩ hv, fun waiting' t ht => ?_⟩
      cases ht
      exact ⟨[], v, h, rfl, ⟨rfl, rfl⟩, hv⟩
    | @answered waiting q next h r a _ ih =>
      obtain ⟨h₁, v, h₂, rfl, hc, hv⟩ := (ih ho).2 _ _ rfl
      have hask : (Talk.ask q next).Comes (⟨q, a⟩ :: h₁) v := ⟨a, h₁, rfl, hc⟩
      refine ⟨hactive waiting _ (⟨q, a⟩ :: h₁) v h₂ hask hv, fun waiting' t ht => ?_⟩
      cases ht
      exact ⟨⟨q, a⟩ :: h₁, v, h₂, rfl, hask, hv⟩
  exact hall.1

end Run.Goes

end

/-! ### Hosts -/

section

variable {α β σ : Type}

lemma pure_apply (a : α) (s : σ) : (pure a : StateM σ α) s = (a, s) := rfl

lemma map_apply (f : α → β) (x : StateM σ α) (s : σ) : (f <$> x) s = (f (x s).1, (x s).2) := rfl

end

/-- Whoever answers requests, with a state of its own that is changed by them. -/
abbrev Host (V E σ : Type) := (r : Request V E) → StateM σ r.Answer

namespace Host

variable {σ : Type}

/-- The host answers in this way, and its state changes in this way. -/
def Answers (host : Host V E σ) : σ → History V E → σ → Prop
  | s, [], s' => s' = s
  | s, x :: h, s' => x.answer = (host x.request s).1 ∧ host.Answers (host x.request s).2 h s'

@[simp]
lemma answers_cons {host : Host V E σ} {s s' : σ} {q : Request V E} {a : q.Answer}
    {h : History V E} :
    host.Answers s (⟨q, a⟩ :: h) s' ↔ a = (host q s).1 ∧ host.Answers (host q s).2 h s' := Iff.rfl

/-- With any host a talk comes to something. -/
lemma comes {α : Type} (host : Host V E σ) (t : Talk V E α) (s : σ) :
    ∃ h a s', host.Answers s h s' ∧ t.Comes h a := by
  induction t generalizing s with
  | done a => exact ⟨[], a, s, rfl, rfl, rfl⟩
  | ask q next ih =>
    obtain ⟨h, a, s', hs, hn⟩ := ih (host q s).1 (host q s).2
    exact ⟨⟨q, _⟩ :: h, a, s', ⟨rfl, hs⟩, _, h, rfl, hn⟩

lemma Answers.append {host : Host V E σ} {s s' s'' : σ} {h h' : History V E}
    (hs : host.Answers s h s') (hs' : host.Answers s' h' s'') : host.Answers s (h ++ h') s'' := by
  induction h generalizing s with
  | nil =>
    obtain rfl := hs
    exact hs'
  | cons x h ih => exact ⟨hs.1, ih hs.2⟩

lemma Answers.split {host : Host V E σ} {s s'' : σ} {h h' : History V E}
    (hs : host.Answers s (h ++ h') s'') : ∃ s', host.Answers s h s' ∧ host.Answers s' h' s'' := by
  induction h generalizing s with
  | nil => exact ⟨s, rfl, hs⟩
  | cons x h ih =>
    obtain ⟨s', h₁, h₂⟩ := ih hs.2
    exact ⟨s', ⟨hs.1, h₁⟩, h₂⟩

/-- A host that puts down everything it is asked and answers. -/
def recorded (host : Host V E σ) : Host V E (σ × History V E) := fun r s =>
  ((host r s.1).1, (host r s.1).2, s.2 ++ [⟨r, (host r s.1).1⟩])

/-- A host that puts things down answers as it would otherwise. -/
lemma Answers.recorded {host : Host V E σ} {s s' : σ} {h : History V E} (hs : host.Answers s h s')
    (k : History V E) : host.recorded.Answers (s, k) h (s', k ++ h) := by
  induction h generalizing s k with
  | nil =>
    obtain rfl := hs
    rw [List.append_nil]
    rfl
  | cons x h ih =>
    obtain ⟨q, a⟩ := x
    obtain ⟨rfl, hrest⟩ := answers_cons.1 hs
    have := ih hrest (k ++ [⟨q, (host q s).1⟩])
    rw [List.append_assoc] at this
    exact ⟨rfl, this⟩

end Host

namespace Run

variable [ValueLike V] [ErrorLike E] {σ : Type} {m : Manner} {host : Host V E σ}

/-- What is conducted with a host goes through the history that the host puts down. -/
lemma conduct_recorded {fuel : ℕ} {r : Run V E} {s s' : σ} {k k' : History V E}
    {result : Option (Except E V)}
    (hc : r.conduct m host.recorded fuel (s, k) = (result, s', k')) :
    ∃ h r', k' = k ++ h ∧ host.Answers s h s' ∧ r.Goes m h r' ∧
      ∀ x, result = some x → r' = .over x := by
  induction fuel generalizing r s k with
  | zero =>
    replace hc : ((none : Option (Except E V)), s, k) = (result, s', k') := hc
    cases hc
    exact ⟨[], r, by simp, rfl, .here r, by simp⟩
  | succ fuel ih =>
    match r, hc with
    | .over x, hc =>
      replace hc : (some x, s, k) = (result, s', k') := hc
      cases hc
      exact ⟨[], _, by simp, rfl, .here _, by simp⟩
    | .active waiting (.done v), hc =>
      obtain ⟨h, r', rfl, hs, hg, hx⟩ := ih hc
      exact ⟨h, r', rfl, hs, .decided hg, hx⟩
    | .active waiting (.ask q next), hc =>
      obtain ⟨h, r', rfl, hs, hg, hx⟩ := ih hc
      exact ⟨⟨q, (host q s).1⟩ :: h, r', by simp, ⟨rfl, hs⟩, .answered _ hg, hx⟩

/-- A finished history that the host answers is conducted, given enough fuel. -/
lemma conduct_of_goes {r : Run V E} {h : History V E} {s s' : σ} {x : Except E V}
    (hg : r.Goes m h (.over x)) (hs : host.Answers s h s') :
    ∃ fuel, r.conduct m host fuel s = (some x, s') := by
  generalize ho : Run.over x = o at hg
  induction hg generalizing s with
  | here r =>
    subst ho
    obtain rfl := hs
    exact ⟨1, rfl⟩
  | decided _ ih =>
    obtain ⟨fuel, hf⟩ := ih hs ho
    exact ⟨fuel + 1, hf⟩
  | @answered waiting q next h r a hn ih =>
    obtain ⟨rfl, hn'⟩ := Host.answers_cons.1 hs
    obtain ⟨fuel, hf⟩ := ih hn' ho
    exact ⟨fuel + 1, hf⟩

/-- What is conducted to a result has gone through a history that the host answers. -/
lemma goes_of_conduct {fuel : ℕ} {r : Run V E} {s s' : σ} {x : Except E V}
    (hc : r.conduct m host fuel s = (some x, s')) :
    ∃ h, host.Answers s h s' ∧ r.Goes m h (.over x) := by
  induction fuel generalizing r s with
  | zero =>
    replace hc : ((none : Option (Except E V)), s) = (some x, s') := hc
    cases hc
  | succ fuel ih =>
    match r, hc with
    | .over y, hc =>
      replace hc : (some y, s) = (some x, s') := hc
      cases hc
      exact ⟨[], rfl, .here _⟩
    | .active waiting (.done v), hc =>
      obtain ⟨h, hs, hg⟩ := ih hc
      exact ⟨h, hs, .decided hg⟩
    | .active waiting (.ask q next), hc =>
      obtain ⟨h, hs, hg⟩ := ih hc
      exact ⟨⟨q, (host q s).1⟩ :: h, ⟨rfl, hs⟩, .answered _ hg⟩

/-- With one host from one state there is one finished history. -/
lemma Goes.unique {r : Run V E} {h h' : History V E} {s t t' : σ} {x x' : Except E V}
    (hg : r.Goes m h (.over x)) (hs : host.Answers s h t)
    (hg' : r.Goes m h' (.over x')) (hs' : host.Answers s h' t') : x' = x ∧ h' = h ∧ t' = t := by
  generalize ho : Run.over x = o at hg
  induction hg generalizing s h' with
  | here r =>
    subst ho
    obtain ⟨rfl, hx⟩ := hg'.of_over
    obtain rfl := hs
    obtain rfl := hs'
    cases hx
    exact ⟨rfl, rfl, rfl⟩
  | decided _ ih =>
    cases hg' with
    | decided hg' => exact ih hs hg' hs' ho
  | answered a _ ih =>
    cases hg' with
    | answered a' hg' =>
      obtain ⟨rfl, hn⟩ := Host.answers_cons.1 hs
      obtain ⟨rfl, hn'⟩ := Host.answers_cons.1 hs'
      obtain ⟨rfl, rfl, rfl⟩ := ih hn hg' hn' ho
      exact ⟨rfl, rfl, rfl⟩

end Run

end Provision
