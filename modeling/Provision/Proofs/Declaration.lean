import Provision.Proofs.Chronicle
import Provision.Proofs.Merging
import Provision.Service

/-!
Declarations: service programs check first, and then they change nothing.

A service program has its declared tokens looked up before its factory is called. Here the
environment is one that nothing happens to (`Host.Steady`): a mapping, whose keys are replaced by
their names, or anything that answers to a name. Up to the first token that is not provided the
check leaves its exchanges in the history (`checks`) and nothing else, and if there is no such token
what follows is the call of the factory and the history of the program that comes from it.

* `completes_bind`: a call goes through the talk it begins with, and then goes on;
* `require_provided_ends`, `require_failed_ends` and `require_absent_ends`: what the check comes to;
* `Run.Goes.seeks`: whatever a run looks up, a token has just told its name;
* `service_program_checks_first`: the whole call, for both drivers;
* `check_error_is_replaced`: the end signal of a generator does not come out of a cooperative call.
-/

namespace Provision

variable {V E σ : Type}

/-! ### Talks with one host -/

section

variable {α β : Type} {host : Host V E σ} {s s' : σ} {h : History V E}

/-- Going through a talk with a host comes to a value, with everything that was asked and answered
on the way. -/
def Talk.Ends (host : Host V E σ) (t : Talk V E α) (s : σ) (h : History V E) (a : α) (s' : σ) :
    Prop :=
  t.Comes h a ∧ host.Answers s h s'

lemma ends_done {a b : α} :
    (Talk.done a : Talk V E α).Ends host s h b s' ↔ h = [] ∧ b = a ∧ s' = s := by
  constructor
  · rintro ⟨⟨rfl, rfl⟩, rfl⟩
    exact ⟨rfl, rfl, rfl⟩
  · rintro ⟨rfl, rfl, rfl⟩
    exact ⟨⟨rfl, rfl⟩, rfl⟩

/-- The host answers the first request, and then the talk goes on. -/
lemma ends_ask {q : Request V E} {next : q.Answer → Talk V E α} {b : α} :
    (Talk.ask q next).Ends host s h b s' ↔
      ∃ h', h = ⟨q, (host q s).1⟩ :: h' ∧ (next (host q s).1).Ends host (host q s).2 h' b s' := by
  constructor
  · rintro ⟨⟨a, h', rfl, hn⟩, hs⟩
    obtain ⟨rfl, hs'⟩ := Host.answers_cons.1 hs
    exact ⟨h', rfl, hn, hs'⟩
  · rintro ⟨h', rfl, hn, hs⟩
    exact ⟨⟨_, h', rfl, hn⟩, rfl, hs⟩

lemma ends_bind {t : Talk V E α} {f : α → Talk V E β} {b : β} :
    (t.bind f).Ends host s h b s' ↔ ∃ h₁ a s₁ h₂, h = h₁ ++ h₂ ∧ t.Ends host s h₁ a s₁ ∧
      (f a).Ends host s₁ h₂ b s' := by
  constructor
  · rintro ⟨hc, hs⟩
    obtain ⟨h₁, a, h₂, rfl, ht, hf⟩ := (Talk.comes_bind t).1 hc
    obtain ⟨s₁, hs₁, hs₂⟩ := hs.split
    exact ⟨h₁, a, s₁, h₂, rfl, ⟨ht, hs₁⟩, hf, hs₂⟩
  · rintro ⟨h₁, a, s₁, h₂, rfl, ⟨ht, hs₁⟩, hf, hs₂⟩
    exact ⟨(Talk.comes_bind t).2 ⟨h₁, a, h₂, rfl, ht, hf⟩, hs₁.append hs₂⟩

end

section

variable [ValueLike V] [ErrorLike E] {m : Manner} {host : Host V E σ} {s s' : σ} {h : History V E}
  {r : Except E V}

/-- A run is conducted to its result, with everything that was asked and answered on the way. -/
def Run.Completes (m : Manner) (host : Host V E σ) (run : Run V E) (s : σ) (h : History V E)
    (r : Except E V) (s' : σ) : Prop :=
  ∃ fuel, run.conduct m host.recorded fuel (s, []) = (some r, s', h)

lemma Run.completes_iff {run : Run V E} :
    run.Completes m host s h r s' ↔ run.Goes m h (.over r) ∧ host.Answers s h s' := by
  constructor
  · rintro ⟨fuel, hc⟩
    obtain ⟨k, run', rfl, hs, hg, hover⟩ := Run.conduct_recorded hc
    obtain rfl := hover r rfl
    exact ⟨hg, hs⟩
  · rintro ⟨hg, hs⟩
    exact Run.conduct_of_goes hg (hs.recorded [])

/-- What is conducted to a result is so with everything that is asked on the way. -/
lemma Run.completes_of_conduct {run : Run V E} {fuel : ℕ}
    (hc : run.conduct m host fuel s = (some r, s')) : ∃ h, run.Completes m host s h r s' := by
  obtain ⟨h, hs, hg⟩ := Run.goes_of_conduct hc
  exact ⟨h, Run.completes_iff.2 ⟨hg, hs⟩⟩

/-- The host answers the first request, and then the run goes on. -/
lemma completes_ask {q : Request V E} {next : q.Answer → Talk V E (Verdict V E)} :
    (Run.active [] (.ask q next)).Completes m host s h r s' ↔
      ∃ h', h = ⟨q, (host q s).1⟩ :: h' ∧
        (Run.active [] (next (host q s).1)).Completes m host (host q s).2 h' r s' := by
  simp only [Run.completes_iff]
  constructor
  · rintro ⟨hg, hs⟩
    cases hg with
    | answered b hg =>
      obtain ⟨rfl, hs'⟩ := Host.answers_cons.1 hs
      exact ⟨_, rfl, hg, hs'⟩
  · rintro ⟨h', rfl, hg, hs⟩
    exact ⟨.answered _ hg, rfl, hs⟩

/-- A run that is in a talk goes through it first. -/
lemma completes_bind {α : Type} {t : Talk V E α} {f : α → Talk V E (Verdict V E)} :
    (Run.active [] (t.bind f)).Completes m host s h r s' ↔ ∃ h₁ a s₁ h₂, h = h₁ ++ h₂ ∧
      t.Ends host s h₁ a s₁ ∧ (Run.active [] (f a)).Completes m host s₁ h₂ r s' := by
  induction t generalizing s h with
  | done a =>
    simp only [Talk.bind_done, ends_done]
    constructor
    · intro hf
      exact ⟨[], a, s, h, rfl, ⟨rfl, rfl, rfl⟩, hf⟩
    · rintro ⟨_, _, _, h₂, rfl, ⟨rfl, rfl, rfl⟩, hf⟩
      exact hf
  | ask q next ih =>
    simp only [Talk.bind_ask, completes_ask, ends_ask, ih]
    constructor
    · rintro ⟨_, rfl, h₁, a, s₁, h₂, rfl, ht, hf⟩
      exact ⟨_ :: h₁, a, s₁, h₂, rfl, ⟨h₁, rfl, ht⟩, hf⟩
    · rintro ⟨_, a, s₁, h₂, rfl, ⟨h₁, rfl, ht⟩, hf⟩
      exact ⟨_, rfl, h₁, a, s₁, h₂, rfl, ht, hf⟩

/-- A run that leaves its last level is over. -/
lemma completes_leave {r' : Except E V} :
    (Run.active [] (.done (.leave r'))).Completes m host s h r s' ↔ h = [] ∧ r = r' ∧ s' = s := by
  rw [Run.completes_iff]
  constructor
  · rintro ⟨hg, hs⟩
    cases hg with
    | decided hg =>
      obtain ⟨rfl, hr⟩ := hg.of_over
      cases hr
      exact ⟨rfl, rfl, hs⟩
  · rintro ⟨rfl, rfl, rfl⟩
    exact ⟨.decided (.here _), rfl⟩

end

/-! ### Environments that nothing happens to -/

/-- What a service program may be given to find its services in. -/
inductive Implementations (V κ E : Type) where
  /-- A mapping, whose keys may be names and tokens. -/
  | mapping (pairs : List (Label V κ × V))
  /-- Anything that answers to a name. -/
  | object (lookup : V → Except E V)

/-- The environment that is searched: the keys of a mapping are replaced by their names, and
anything else is used as it is. -/
def Implementations.lookup {κ : Type} [DecidableEq V] (absence : Absence V E) :
    Implementations V κ E → V → Except E V
  | .mapping pairs => fun name =>
    ((environment [pairs] []).get? name).elim (.error (absence.missing name)) .ok
  | .object lookup => lookup

/-- A host in whose environment lookups change nothing and always come to the same. The declared
tokens always tell the same names, records can be put into the log, and the errors of complaints are
ordinary ones. -/
structure Host.Steady [ErrorLike E] (host : Host V E σ) (absence : Absence V E)
    (env : V → Except E V) (nameOf : V → V) (tokens : List V) : Prop where
  finds (name : V) (s : σ) : host (.find name) s = (.ofResult (absence.tells name) (env name), s)
  tells (token : V) (s : σ) : token ∈ tokens → host (.nameOf token) s = (.ok (nameOf token), s)
  logs (r : Report V) (s : σ) : (host (.report r) s).1 = none
  complains (c : Complaint V) (s : σ) : ErrorLike.nature (host (.complain c) s).1 = .ordinary

/-- The tokens are provided. -/
def Provided (env : V → Except E V) (nameOf : V → V) (tokens : List V) : Prop :=
  ∀ t ∈ tokens, ∃ v, env (nameOf t) = .ok v

/-- The exchanges in which some tokens are looked up, in order. -/
def checks (absence : Absence V E) (env : V → Except E V) (nameOf : V → V) (tokens : List V) :
    History V E :=
  tokens.flatMap fun t => [⟨.nameOf t, .ok (nameOf t)⟩,
    ⟨.find (nameOf t), .ofResult (absence.tells (nameOf t)) (env (nameOf t))⟩]

/-- The error that a host makes of a service that is absent, as `said` says, and its state then. -/
def Host.complaint (host : Host V E σ) (name : V) (said : E) (s : σ) : E × σ :=
  let reported := (host (.report (.notProvided name)) (host (.handle said) s).2).2
  let made := host (.complain (.notProvided name)) reported
  (made.1, (host .handled made.2).2)

/-- The exchanges in which this error is made. -/
def absenceTold (name : V) (said e : E) : History V E :=
  [⟨.handle said, ()⟩, ⟨.report (.notProvided name), none⟩, ⟨.complain (.notProvided name), e⟩,
    ⟨.handled, ()⟩]

section

variable [ErrorLike E] {host : Host V E σ} {absence : Absence V E} {env : V → Except E V}
  {nameOf : V → V} {tokens before after : List V} {t : V} {h : History V E} {s s' : σ} {e : E}

lemma Host.Steady.mono (hhost : host.Steady absence env nameOf tokens)
    (hsub : ∀ t ∈ before, t ∈ tokens) : host.Steady absence env nameOf before :=
  { hhost with tells := fun t s ht => hhost.tells t s (hsub t ht) }

/-- A lookup that does not come to absence is one exchange. -/
lemma lookup_ends (hhost : host.Steady absence env nameOf tokens) {name : V}
    (henv : ¬ absence.Absent name (env name)) {a : Except E V} :
    (lookup name).Ends host s h a s' ↔
      h = [⟨.find name, .ofResult (absence.tells name) (env name)⟩] ∧ a = env name ∧ s' = s := by
  rw [lookup, ends_ask, hhost.finds]
  cases hr : env name with
  | ok v =>
    simp only [Finding.ofResult, ends_done]
    constructor
    · rintro ⟨_, rfl, rfl, rfl, rfl⟩
      exact ⟨rfl, rfl, rfl⟩
    · rintro ⟨rfl, rfl, rfl⟩
      exact ⟨[], rfl, rfl, rfl, rfl⟩
  | error e =>
    rw [hr, Absence.absent_error, Bool.not_eq_true] at henv
    simp only [Finding.ofResult, henv, Bool.false_eq_true, if_false, ends_done]
    constructor
    · rintro ⟨_, rfl, rfl, rfl, rfl⟩
      exact ⟨rfl, rfl, rfl⟩
    · rintro ⟨rfl, rfl, rfl⟩
      exact ⟨[], rfl, rfl, rfl, rfl⟩

/-- The lookup of a name that is absent ends with the error that is made of it. -/
lemma lookup_absent_ends (hhost : host.Steady absence env nameOf tokens) {name : V}
    (henv : env name = .error e) (htells : absence.tells name e = true) {a : Except E V} :
    (lookup name).Ends host s h a s' ↔
      h = ⟨.find name, .absent e⟩ :: absenceTold name e (host.complaint name e s).1 ∧
        a = .error (host.complaint name e s).1 ∧ s' = (host.complaint name e s).2 := by
  rw [lookup, ends_ask, hhost.finds, henv]
  simp only [Finding.ofResult, htells, if_true, Talk.handling, Talk.bind_ask, ends_ask, hhost.logs,
    Talk.bind_done, ends_done]
  constructor
  · rintro ⟨_, rfl, _, rfl, _, rfl, _, rfl, _, rfl, rfl, rfl, rfl⟩
    exact ⟨rfl, rfl, rfl⟩
  · rintro ⟨rfl, rfl, rfl⟩
    exact ⟨_, rfl, _, rfl, _, rfl, _, rfl, _, rfl, rfl, rfl, rfl⟩

/-! ### The check -/

omit [ErrorLike E] in
lemma checks_append (ts ts' : List V) : checks absence env nameOf (ts ++ ts') =
    checks absence env nameOf ts ++ checks absence env nameOf ts' := List.flatMap_append

/-- The check of the first token, and then that of the others. -/
lemma require_cons_ends (hhost : host.Steady absence env nameOf (t :: tokens))
    {a : Except E Unit} : (require (t :: tokens)).Ends host s h a s' ↔ ∃ h₁ b s₁ h₂,
      h = ⟨.nameOf t, .ok (nameOf t)⟩ :: (h₁ ++ h₂) ∧ (lookup (nameOf t)).Ends host s h₁ b s₁ ∧
      (match b with
        | .ok _ => require tokens
        | .error e => .done (.error e)).Ends host s₁ h₂ a s' := by
  rw [require, ends_ask, hhost.tells t s List.mem_cons_self]
  simp only [ends_bind]
  constructor
  · rintro ⟨_, rfl, h₁, b, s₁, h₂, rfl, hlookup, hrest⟩
    exact ⟨h₁, b, s₁, h₂, rfl, hlookup, hrest⟩
  · rintro ⟨h₁, b, s₁, h₂, rfl, hlookup, hrest⟩
    exact ⟨_, rfl, h₁, b, s₁, h₂, rfl, hlookup, hrest⟩

/-- A token that is provided is looked up, and the check goes on with the others. -/
lemma require_provided_cons (hhost : host.Steady absence env nameOf (t :: tokens)) {v : V}
    (henv : env (nameOf t) = .ok v) {a : Except E Unit} :
    (require (t :: tokens)).Ends host s h a s' ↔ ∃ h',
      h = checks absence env nameOf [t] ++ h' ∧ (require tokens).Ends host s h' a s' := by
  have habsent : ¬ absence.Absent (nameOf t) (env (nameOf t)) := by
    rw [henv]
    exact Absence.not_absent_ok
  rw [require_cons_ends hhost]
  simp only [lookup_ends hhost habsent]
  constructor
  · rintro ⟨_, _, _, h', rfl, ⟨rfl, rfl, rfl⟩, hrest⟩
    rw [henv] at hrest
    exact ⟨h', rfl, hrest⟩
  · rintro ⟨h', rfl, hrest⟩
    refine ⟨_, _, _, h', rfl, ⟨rfl, rfl, rfl⟩, ?_⟩
    rw [henv]
    exact hrest

/-- Tokens that are provided are looked up in order, and then the check goes on. -/
lemma require_append_ends (hhost : host.Steady absence env nameOf (before ++ after))
    (hp : Provided env nameOf before) {a : Except E Unit} :
    (require (before ++ after)).Ends host s h a s' ↔ ∃ h',
      h = checks absence env nameOf before ++ h' ∧ (require after).Ends host s h' a s' := by
  induction before generalizing h with
  | nil => exact ⟨fun hr => ⟨h, rfl, hr⟩, fun ⟨_, hh, hr⟩ => hh ▸ hr⟩
  | cons t before ih =>
    obtain ⟨⟨v, henv⟩, hp⟩ := List.forall_mem_cons.1 hp
    rw [List.cons_append] at hhost ⊢
    have hrest : host.Steady absence env nameOf (before ++ after) :=
      hhost.mono fun t ht => List.mem_cons_of_mem _ ht
    rw [require_provided_cons hhost henv]
    simp only [ih hrest hp]
    constructor
    · rintro ⟨_, rfl, h', rfl, hr⟩
      exact ⟨h', by rw [← List.append_assoc, ← checks_append]; rfl, hr⟩
    · rintro ⟨h', rfl, hr⟩
      refine ⟨_, ?_, h', rfl, hr⟩
      rw [← List.append_assoc, ← checks_append]
      rfl

/-- If all tokens are provided, nothing else happens than that they are looked up. -/
lemma require_provided_ends (hhost : host.Steady absence env nameOf tokens)
    (hp : Provided env nameOf tokens) {a : Except E Unit} :
    (require tokens).Ends host s h a s' ↔
      h = checks absence env nameOf tokens ∧ a = .ok () ∧ s' = s := by
  have happend : (require (tokens ++ [])).Ends host s h a s' ↔ ∃ h',
      h = checks absence env nameOf tokens ++ h' ∧ (require []).Ends host s h' a s' :=
    require_append_ends (by rwa [List.append_nil]) hp
  rw [List.append_nil] at happend
  rw [happend]
  simp only [require, ends_done]
  constructor
  · rintro ⟨_, rfl, rfl, rfl, rfl⟩
    exact ⟨List.append_nil _, rfl, rfl⟩
  · rintro ⟨rfl, rfl, rfl⟩
    exact ⟨[], (List.append_nil _).symm, rfl, rfl, rfl⟩

/-- The error of the environment ends the check. -/
lemma require_failed_ends (hhost : host.Steady absence env nameOf (before ++ t :: after))
    (hp : Provided env nameOf before) (henv : env (nameOf t) = .error e)
    (htells : absence.tells (nameOf t) e = false) {a : Except E Unit} :
    (require (before ++ t :: after)).Ends host s h a s' ↔
      h = checks absence env nameOf (before ++ [t]) ∧ a = .error e ∧ s' = s := by
  have hrest : host.Steady absence env nameOf (t :: after) :=
    hhost.mono fun t ht => List.mem_append_right _ ht
  have habsent : ¬ absence.Absent (nameOf t) (env (nameOf t)) := by
    rw [henv, Absence.absent_error, htells]
    exact Bool.false_ne_true
  rw [require_append_ends hhost hp]
  simp only [require_cons_ends hrest, lookup_ends hrest habsent]
  rw [checks_append]
  constructor
  · rintro ⟨_, rfl, _, _, _, _, rfl, ⟨rfl, rfl, rfl⟩, hend⟩
    rw [henv] at hend
    obtain ⟨rfl, rfl, rfl⟩ := ends_done.1 hend
    exact ⟨rfl, rfl, rfl⟩
  · rintro ⟨rfl, rfl, rfl⟩
    refine ⟨_, rfl, _, _, _, [], rfl, ⟨rfl, rfl, rfl⟩, ?_⟩
    rw [henv]
    exact ends_done.2 ⟨rfl, rfl, rfl⟩

/-- The first token that is absent is complained about, and that ends the check. -/
lemma require_absent_ends (hhost : host.Steady absence env nameOf (before ++ t :: after))
    (hp : Provided env nameOf before) (henv : env (nameOf t) = .error e)
    (htells : absence.tells (nameOf t) e = true) {a : Except E Unit} :
    (require (before ++ t :: after)).Ends host s h a s' ↔
      h = checks absence env nameOf (before ++ [t]) ++
          absenceTold (nameOf t) e (host.complaint (nameOf t) e s).1 ∧
        a = .error (host.complaint (nameOf t) e s).1 ∧ s' = (host.complaint (nameOf t) e s).2 := by
  have hrest : host.Steady absence env nameOf (t :: after) :=
    hhost.mono fun t ht => List.mem_append_right _ ht
  have hlast : checks absence env nameOf [t] =
      [⟨.nameOf t, .ok (nameOf t)⟩, ⟨.find (nameOf t), .absent e⟩] := by
    simp [checks, henv, Finding.ofResult, htells]
  rw [require_append_ends hhost hp]
  simp only [require_cons_ends hrest, lookup_absent_ends hrest henv htells]
  rw [checks_append, hlast, List.append_assoc]
  constructor
  · rintro ⟨_, rfl, _, _, _, _, rfl, ⟨rfl, rfl, rfl⟩, hend⟩
    obtain ⟨rfl, rfl, rfl⟩ := ends_done.1 hend
    exact ⟨by rw [List.append_nil]; rfl, rfl, rfl⟩
  · rintro ⟨rfl, rfl, rfl⟩
    refine ⟨_, rfl, _, _, _, [], ?_, ⟨rfl, rfl, rfl⟩, ends_done.2 ⟨rfl, rfl, rfl⟩⟩
    rw [List.append_nil]
    rfl

end

/-! ### What a run looks up -/

/-- A request to have a program built. -/
def Request.Builds : Request V E → Prop
  | .build .. => True
  | _ => False

/-- Every name that is looked up was just told by a token, and no service is said to be absent but
in a lookup. -/
inductive Seeks : History V E → Prop
  | nil : Seeks []
  | mute {x : Exchange V E} {h : History V E} : x.request.Mute → Seeks h → Seeks (x :: h)
  | reports {r : Report V} (a : Option E) {h : History V E} :
    (∀ name, r ≠ .notProvided name) → Seeks h → Seeks (⟨.report r, a⟩ :: h)
  | lookup {token name : V} {h₁ h : History V E} {a : Except E V} :
    (Provision.lookup name).Comes h₁ a → Seeks h → Seeks (⟨.nameOf token, .ok name⟩ :: (h₁ ++ h))

/-- Whatever a talk comes to, it looks up nothing but what a token has just told. -/
def Talk.Seeking {α : Type} (t : Talk V E α) : Prop := ∀ h a, t.Comes h a → Seeks h

section

variable {α β : Type} {h h' : History V E}

lemma Seeks.append (hs : Seeks h) (hs' : Seeks h') : Seeks (h ++ h') := by
  induction hs with
  | nil => exact hs'
  | mute hx _ ih => exact .mute hx ih
  | reports a hr _ ih => exact .reports a hr ih
  | lookup hc _ ih =>
    rw [List.cons_append, List.append_assoc]
    exact .lookup hc ih

lemma Seeks.of_mute (hh : ∀ x ∈ h, x.request.Mute) : Seeks h := by
  induction h with
  | nil => exact .nil
  | cons x h ih =>
    obtain ⟨hx, hh⟩ := List.forall_mem_cons.1 hh
    exact .mute hx (ih hh)

lemma seeking_done (a : α) : (Talk.done a : Talk V E α).Seeking := by
  rintro _ _ ⟨rfl, rfl⟩
  exact .nil

lemma seeking_bind {t : Talk V E α} {f : α → Talk V E β} (ht : t.Seeking)
    (hf : ∀ a, (f a).Seeking) : (t.bind f).Seeking := by
  intro h b hc
  obtain ⟨h₁, a, h₂, rfl, hc₁, hc₂⟩ := (Talk.comes_bind t).1 hc
  exact (ht _ _ hc₁).append (hf a _ _ hc₂)

lemma seeking_ask {q : Request V E} {next : q.Answer → Talk V E α} (hq : q.Mute)
    (hnext : ∀ a, (next a).Seeking) : (Talk.ask q next).Seeking := by
  rintro _ b ⟨a, h, rfl, hc⟩
  exact .mute hq (hnext a _ _ hc)

lemma seeking_handling {e : E} {t : Talk V E α} (ht : t.Seeking) : (Talk.handling e t).Seeking :=
  seeking_ask trivial fun _ => seeking_bind ht fun _ => seeking_ask trivial fun _ => seeking_done _

/-- A lookup has no program built. -/
lemma lookup_not_builds {name : V} {a : Except E V} (hc : (lookup name).Comes h a) :
    ∀ x ∈ h, ¬ x.request.Builds := by
  obtain ⟨b, h, rfl, hn⟩ := hc
  cases b with
  | found v =>
    obtain ⟨rfl, rfl⟩ := hn
    simp [Request.Builds]
  | failed e =>
    obtain ⟨rfl, rfl⟩ := hn
    simp [Request.Builds]
  | absent said =>
    replace hn := hn.handling
    obtain ⟨_, rfl, c, _, rfl, hn⟩ := hn
    cases c with
    | some e =>
      obtain ⟨rfl, rfl⟩ := hn
      simp [Request.Builds]
    | none =>
      obtain ⟨e, _, rfl, rfl, rfl⟩ := hn
      simp [Request.Builds]

/-- No program is built in a run. -/
lemma Seeks.not_builds (hs : Seeks h) : ∀ x ∈ h, ¬ x.request.Builds := by
  induction hs with
  | nil => nofun
  | @mute x _ hx _ ih =>
    refine List.forall_mem_cons.2 ⟨fun hb => ?_, ih⟩
    obtain ⟨q, a⟩ := x
    cases q <;> first | exact hb | exact hx
  | reports a _ _ ih => exact List.forall_mem_cons.2 ⟨id, ih⟩
  | lookup hc _ ih =>
    exact List.forall_mem_cons.2 ⟨id, List.forall_mem_append.2 ⟨lookup_not_builds hc, ih⟩⟩

/-- If whatever a token tells is found, then nothing is said to be absent. -/
lemma Seeks.not_complains (hs : Seeks h)
    (hfind : ∀ t n a, ⟨.nameOf t, .ok n⟩ ∈ h → ⟨.find n, a⟩ ∈ h → ∃ v, a = .found v) (name : V) :
    ∀ x ∈ h, x.request ≠ .complain (.notProvided name) := by
  induction hs with
  | nil => nofun
  | @mute x _ hx _ ih =>
    refine List.forall_mem_cons.2 ⟨fun he => ?_, ih fun t n a ht hn =>
      hfind t n a (List.mem_cons_of_mem _ ht) (List.mem_cons_of_mem _ hn)⟩
    rw [he] at hx
    exact hx
  | reports a _ _ ih =>
    exact List.forall_mem_cons.2 ⟨nofun, ih fun t n a ht hn =>
      hfind t n a (List.mem_cons_of_mem _ ht) (List.mem_cons_of_mem _ hn)⟩
  | @lookup token n h₁ h a hc _ ih =>
    obtain ⟨b, h₁, rfl, hn⟩ := hc
    obtain ⟨v, rfl⟩ := hfind token n b List.mem_cons_self
      (List.mem_cons_of_mem _ List.mem_cons_self)
    obtain ⟨rfl, rfl⟩ := hn
    refine List.forall_mem_cons.2 ⟨nofun, List.forall_mem_cons.2 ⟨nofun, ih fun t n a ht hn => ?_⟩⟩
    exact hfind t n a (List.mem_cons_of_mem _ (List.mem_cons_of_mem _ ht))
      (List.mem_cons_of_mem _ (List.mem_cons_of_mem _ hn))

variable [ErrorLike E] {m : Manner} {l : Level V}

lemma finish_seeking (r : Except E V) : (finish m l r).Seeking := by
  have hclose : (l.close : Talk V E _).Seeking := fun _ _ hc => .of_mute (close_mute hc)
  refine seeking_bind ?_ fun a => ?_
  · cases r with
    | ok v => exact hclose
    | error e => exact seeking_handling hclose
  · cases a <;> exact seeking_done _

lemma reporting_seeking {r : Report V} {next : Talk V E (Verdict V E)}
    (hr : ∀ name, r ≠ .notProvided name) (hnext : next.Seeking) :
    (reporting m l r next).Seeking := by
  rintro _ v ⟨a, h, rfl, hn⟩
  refine .reports a hr ?_
  cases a with
  | none => exact hnext _ _ hn
  | some e => exact finish_seeking _ _ _ hn

lemma deliver_seeking {value : Talk V E (Except E V)} (hvalue : value.Seeking) :
    (deliver m l value).Seeking :=
  reporting_seeking nofun (seeking_bind hvalue finish_seeking)

lemma unlessDue_seeking {answer : Talk V E (Verdict V E)} (ha : answer.Seeking) :
    (unlessDue m l answer).Seeking := by
  refine seeking_ask trivial fun a => ?_
  cases a with
  | goOn => exact ha
  | stop how => exact seeking_done _
  | failed e => exact finish_seeking _

lemma settle_seeking (payload : V) (kind : Kind) : (settle (E := E) m l payload kind).Seeking := by
  cases kind with
  | completion => exact deliver_seeking (seeking_ask trivial seeking_done)
  | nested => exact unlessDue_seeking (reporting_seeking nofun (seeking_done _))
  | passthrough => exact unlessDue_seeking (reporting_seeking nofun (seeking_done _))
  | service =>
    refine unlessDue_seeking ?_
    rintro _ v ⟨a, h, rfl, hn⟩
    cases a with
    | error e => exact .mute trivial (finish_seeking _ _ _ hn)
    | ok name =>
      obtain ⟨h₁, a, h₂, rfl, hlookup, hnext⟩ := (Talk.comes_bind _).1 hn
      refine .lookup hlookup ?_
      cases a with
      | error e => exact finish_seeking _ _ _ hnext
      | ok v => exact reporting_seeking nofun (seeking_done _) _ _ hnext

lemma classify_seeking (payload : V) : (classify (E := E) payload).Seeking :=
  fun _ _ hc => .of_mute (classify_mute (m := .blocking) hc).1

variable [ValueLike V]

lemma cycle_seeking (how : Resumption V E) : (cycle m l how).Seeking := by
  refine seeking_bind (fun h o hc => .of_mute (Level.resume_mute (m := m) hc).2.2.1) ?_
  rintro ⟨l', o⟩
  cases o with
  | raises e => exact finish_seeking _
  | ends value => exact deliver_seeking (seeking_done _)
  | yields payload =>
    refine seeking_bind (classify_seeking payload) fun a => ?_
    cases a with
    | error e => exact finish_seeking _
    | ok kind => exact settle_seeking payload kind

lemma takeUp_seeking (q : V) : (takeUp (E := E) m q).Seeking := by
  refine seeking_ask trivial fun a => ?_
  cases a with
  | error e => exact seeking_done _
  | ok traits =>
    cases hform : m.accept traits with
    | error why =>
      simp only [hform]
      exact seeking_ask trivial fun _ => seeking_done _
    | ok form =>
      simp only [hform]
      refine seeking_ask trivial fun a => ?_
      cases a with
      | none => exact seeking_done _
      | some e => exact finish_seeking _

/-- A call with all its nested calls looks up nothing but what a token has just told. -/
lemma Course.seeks {t : Talk V E (Verdict V E)} {k : List (Passage V E)} {r : Except E V}
    (hc : Course m t k r) (ht : t.Seeking) : Seeks (exchanges k) := by
  induction hc with
  | leaves hcomes =>
    rw [exchanges_own]
    exact ht _ _ hcomes
  | again hcomes _ ih =>
    rw [exchanges_append, exchanges_own]
    exact (ht _ _ hcomes).append (ih (cycle_seeking _))
  | @enters _ _ l q _ _ r' _ hcomes _ _ ihi ihk =>
    rw [exchanges_append, exchanges_own, exchanges_nested]
    have hproceed : (proceed m l r').Seeking := by
      cases r' with
      | ok v => exact cycle_seeking _
      | error e => exact finish_seeking (.error e)
    exact (ht _ _ hcomes).append ((ihi (takeUp_seeking q)).append (ihk hproceed))

lemma Run.Goes.seeks {q : V} {r : Except E V} (hg : (Run.start m q).Goes m h (.over r)) :
    Seeks h := by
  obtain ⟨k, rfl, hk⟩ := Run.Goes.course hg
  exact hk.seeks (takeUp_seeking q)

end

/-! ### Service programs -/

namespace Bindings

variable {ν α : Type} [DecidableEq ν] {P : ν → α → Prop}

lemma forall_insert {n : ν} {a : α} {ps : List (ν × α)} (hps : ∀ p ∈ ps, P p.1 p.2)
    (hn : P n a) : ∀ p ∈ insert n a ps, P p.1 p.2 := by
  induction ps with
  | nil => exact List.forall_mem_singleton.2 hn
  | cons q ps ih =>
    obtain ⟨hq, hps⟩ := List.forall_mem_cons.1 hps
    rw [insert]
    split
    · next h =>
      obtain rfl := eq_of_beq h
      exact List.forall_mem_cons.2 ⟨hn, hps⟩
    · exact List.forall_mem_cons.2 ⟨hq, ih hps⟩

/-- What holds of all pairs holds of the bindings that they make. -/
lemma forall_update {b : Bindings ν α} {ps : List (ν × α)} (hb : ∀ p ∈ b.pairs, P p.1 p.2)
    (hps : ∀ p ∈ ps, P p.1 p.2) : ∀ p ∈ (b.update ps).pairs, P p.1 p.2 := by
  induction ps generalizing b with
  | nil => exact hb
  | cons q ps ih =>
    obtain ⟨hq, hps⟩ := List.forall_mem_cons.1 hps
    exact ih (forall_insert hb hq) hps

end Bindings

/-- Tokens of the same name are declared once: the names of the declared tokens are those that are
given, each where it came first. -/
lemma ServiceProgram.ofTokens_names [DecidableEq V] (nameOf : V → V) (tokens : List V)
    (factory : V) : (ofTokens nameOf tokens factory).tokens.map nameOf =
      unseen [] (tokens.map nameOf) := by
  have hown : ∀ p ∈ (ofTokens nameOf tokens factory).services.pairs, nameOf p.2 = p.1 := by
    refine Bindings.forall_update (P := fun n t => nameOf t = n) nofun fun p hp => ?_
    obtain ⟨t, -, rfl⟩ := List.mem_map.1 hp
    rfl
  calc (ofTokens nameOf tokens factory).tokens.map nameOf
      = (ofTokens nameOf tokens factory).services.names := by
        rw [ServiceProgram.tokens, Bindings.values, List.map_map]
        exact List.map_congr_left hown
    _ = unseen [] ((tokens.map fun t => (nameOf t, t)).map (·.1)) := Dictionary.names_ofPairs _
    _ = unseen [] (tokens.map nameOf) := by rw [List.map_map]; rfl

/-- Arguments that are given in several steps add up, and nothing else changes. -/
lemma ServiceProgram.foldl_withArgs {ν : Type} [BEq ν] (p : ServiceProgram V ν)
    (chain : List (List V × List (ν × V))) :
    chain.foldl (fun p a => p.withArgs a.1 a.2) p =
      p.withArgs (chain.flatMap (·.1)) (chain.flatMap (·.2)) := by
  induction chain generalizing p with
  | nil => simp [withArgs, Arguments.extend]
  | cons a chain ih =>
    rw [List.foldl_cons, ih, List.flatMap_cons, List.flatMap_cons]
    simp only [withArgs, Arguments.extend_extend]

section

variable {host : Host V E σ} {absence : Absence V E} {env : V → Except E V} {nameOf : V → V}
  {tokens before after : List V} {t : V} {h : History V E} {s s' : σ}

/-- What is found in a run is what the environment has. -/
lemma Host.Steady.found [ErrorLike E] (hhost : host.Steady absence env nameOf tokens)
    (hs : host.Answers s h s') {name : V} {a : Finding V E} (ha : ⟨.find name, a⟩ ∈ h) :
    a = .ofResult (absence.tells name) (env name) := by
  induction h generalizing s with
  | nil => cases ha
  | cons x h ih =>
    obtain ha | ha := List.mem_cons.1 ha
    · subst ha
      exact hs.1.trans (by rw [hhost.finds])
    · exact ih hs.2 ha

variable [ValueLike V] [ErrorLike E] {m : Manner} {r : Except E V}

/-- A call that comes from a blueprint: the check, then the factory, and then the program. -/
lemma launch_completes {b : Blueprint V} : (Run.launch m b).Completes m host s h r s' ↔
    ∃ h₁ a s₁ h₂, h = h₁ ++ h₂ ∧ (require b.required).Ends host s h₁ a s₁ ∧
      match a with
      | .error e => h₂ = [] ∧ r = .error (m.cross e) ∧ s' = s₁
      | .ok _ => ∃ rest,
        h₂ = ⟨.build b.factory b.services b.arguments b.keywords,
          (host (.build b.factory b.services b.arguments b.keywords) s₁).1⟩ :: rest ∧
        match host (.build b.factory b.services b.arguments b.keywords) s₁ with
        | (.error e, s₂) => rest = [] ∧ r = .error (m.cross e) ∧ s' = s₂
        | (.ok program, s₂) => (Run.start m program).Completes m host s₂ rest r s' := by
  unfold Run.launch Blueprint.build
  rw [Talk.bind_assoc, completes_bind]
  refine exists₄_congr fun h₁ a s₁ h₂ => and_congr_right fun _ => and_congr_right fun _ => ?_
  cases a with
  | error e => rw [Talk.bind_done, completes_leave, Manner.out_error]
  | ok _ =>
    simp only [Talk.bind_ask, Talk.bind_done, completes_ask]
    refine exists_congr fun rest => and_congr_right fun _ => ?_
    obtain ⟨a, s₂, ha⟩ : ∃ a s₂,
        host (.build b.factory b.services b.arguments b.keywords) s₁ = (a, s₂) := ⟨_, _, rfl⟩
    rw [ha]
    cases a with
    | error e => rw [completes_leave, Manner.out_error]
    | ok program => rfl

/-- The first token that is not provided ends the call. -/
lemma launch_missing (hhost : host.Steady absence env nameOf (before ++ t :: after))
    (hp : Provided env nameOf before) {e : E} (henv : env (nameOf t) = .error e) {b : Blueprint V}
    (hb : b.required = before ++ t :: after) : (Run.launch m b).Completes m host s h r s' ↔
      if absence.tells (nameOf t) e then
        h = checks absence env nameOf (before ++ [t]) ++
            absenceTold (nameOf t) e (host.complaint (nameOf t) e s).1 ∧
          r = .error (host.complaint (nameOf t) e s).1 ∧ s' = (host.complaint (nameOf t) e s).2
      else h = checks absence env nameOf (before ++ [t]) ∧ r = .error (m.cross e) ∧ s' = s := by
  rw [launch_completes, hb]
  cases htells : absence.tells (nameOf t) e with
  | true =>
    have hcross : m.cross (host.complaint (nameOf t) e s).1 = (host.complaint (nameOf t) e s).1 :=
      m.cross_of_not_ended (by rw [Host.complaint, hhost.complains]; exact Nature.noConfusion)
    simp only [if_true, require_absent_ends hhost hp henv htells]
    constructor
    · rintro ⟨_, _, _, _, rfl, ⟨rfl, rfl, rfl⟩, rfl, rfl, rfl⟩
      exact ⟨List.append_nil _, by rw [hcross], rfl⟩
    · rintro ⟨rfl, rfl, rfl⟩
      exact ⟨_, _, _, [], (List.append_nil _).symm, ⟨rfl, rfl, rfl⟩, rfl, by rw [hcross], rfl⟩
  | false =>
    simp only [Bool.false_eq_true, if_false, require_failed_ends hhost hp henv htells]
    constructor
    · rintro ⟨_, _, _, _, rfl, ⟨rfl, rfl, rfl⟩, rfl, rfl, rfl⟩
      exact ⟨List.append_nil _, rfl, rfl⟩
    · rintro ⟨rfl, rfl, rfl⟩
      exact ⟨_, _, _, [], (List.append_nil _).symm, ⟨rfl, rfl, rfl⟩, rfl, rfl, rfl⟩

/-- If all tokens are provided, the factory is called after the check, and then the call is the run
of the program that it returns. -/
lemma launch_provided (hhost : host.Steady absence env nameOf tokens)
    (hp : Provided env nameOf tokens) {b : Blueprint V} (hb : b.required = tokens) :
    (Run.launch m b).Completes m host s h r s' ↔
      let build := Request.build b.factory b.services b.arguments b.keywords
      ∃ rest, h = checks absence env nameOf tokens ++ ⟨build, (host build s).1⟩ :: rest ∧
        match host build s with
        | (.error e, s₁) => rest = [] ∧ r = .error (m.cross e) ∧ s' = s₁
        | (.ok program, s₁) => (Run.start m program).Completes m host s₁ rest r s' := by
  rw [launch_completes, hb]
  simp only [require_provided_ends hhost hp]
  constructor
  · rintro ⟨_, _, _, _, rfl, ⟨rfl, rfl, rfl⟩, rest, rfl, hrest⟩
    exact ⟨rest, rfl, hrest⟩
  · rintro ⟨rest, rfl, hrest⟩
    exact ⟨_, _, _, _, rfl, ⟨rfl, rfl, rfl⟩, rest, rfl, hrest⟩

/-- In a run that asks for declared tokens only, and these are provided, nothing is absent. -/
lemma completes_without_complaint {program : V}
    (hc : (Run.start m program).Completes m host s h r s')
    (hhost : host.Steady absence env nameOf tokens) (hp : Provided env nameOf tokens)
    (hdeclared : ∀ t n, ⟨.nameOf t, .ok n⟩ ∈ h → ∃ d ∈ tokens, n = nameOf d) :
    ∀ x ∈ h, ∀ name, x.request ≠ .complain (.notProvided name) := by
  obtain ⟨hg, hs⟩ := Run.completes_iff.1 hc
  intro x hx name
  refine hg.seeks.not_complains (fun t n a ht hn => ?_) name x hx
  obtain ⟨d, hd, rfl⟩ := hdeclared t n ht
  obtain ⟨v, hv⟩ := hp d hd
  have ha := hhost.found hs hn
  rw [hv] at ha
  exact ⟨v, ha⟩

/-- **A service program checks first and then changes nothing.** It may have been given any further
arguments in any number of steps, and its environment is a mapping, whose keys are replaced by their
names, or anything that answers to a name; nothing happens to either. The declared tokens, which do
not depend on the arguments, are looked up in order; if they are given by themselves, each name is
looked up once.

* If the first of them that is not provided is absent, the call fails with the error that is made
  of it; if the environment fails, the call fails with that error, which only a boundary can
  replace. Nothing else has happened then: no later token was looked up, and nothing was built.
* If all are provided, the factory is called once, with the services and with all arguments. Then
  the call goes on exactly as the run of the program that it returns, from the state after that.
* A run has nothing built; and if whatever the tokens tell in it is the name of a declared token,
  then nothing is said to be absent in it. -/
theorem service_program_checks_first [DecidableEq V] {ν κ : Type} [BEq ν]
    (declared : ServiceProgram V ν) (pack : Packing V ν) (chain : List (List V × List (ν × V)))
    (given : Implementations V κ E)
    (hhost : host.Steady absence (given.lookup absence) nameOf declared.tokens) (m : Manner)
    (s : σ) :
    let p := chain.foldl (fun p a => p.withArgs a.1 a.2) declared
    let b := p.blueprint pack
    let env := given.lookup absence
    (∀ tokens factory, (ServiceProgram.ofTokens nameOf tokens factory).tokens.map nameOf =
      unseen [] (tokens.map nameOf)) ∧
    (b.required = declared.tokens ∧ b.factory = declared.factory ∧ p.services = declared.services ∧
      p.arguments = declared.arguments.extend (chain.flatMap (·.1)) (chain.flatMap (·.2))) ∧
    (∀ before t after e, declared.tokens = before ++ t :: after → Provided env nameOf before →
      env (nameOf t) = .error e →
      ∀ h r s', (Run.launch m b).Completes m host s h r s' ↔
        if absence.tells (nameOf t) e then
          h = checks absence env nameOf (before ++ [t]) ++
              absenceTold (nameOf t) e (host.complaint (nameOf t) e s).1 ∧
            r = .error (host.complaint (nameOf t) e s).1 ∧ s' = (host.complaint (nameOf t) e s).2
        else
          h = checks absence env nameOf (before ++ [t]) ∧ r = .error (m.cross e) ∧ s' = s) ∧
    (Provided env nameOf declared.tokens → ∀ h r s',
      (Run.launch m b).Completes m host s h r s' ↔
        let build := Request.build b.factory b.services b.arguments b.keywords
        ∃ rest, h = checks absence env nameOf declared.tokens ++ ⟨build, (host build s).1⟩ :: rest ∧
          match host build s with
          | (.error e, s₁) => rest = [] ∧ r = .error (m.cross e) ∧ s' = s₁
          | (.ok program, s₁) => (Run.start m program).Completes m host s₁ rest r s') ∧
    ∀ program s h r s', (Run.start m program).Completes m host s h r s' →
      (∀ x ∈ h, ¬ x.request.Builds) ∧
      (Provided env nameOf declared.tokens →
        (∀ t n, ⟨.nameOf t, .ok n⟩ ∈ h → ∃ d ∈ declared.tokens, n = nameOf d) →
        ∀ x ∈ h, ∀ name, x.request ≠ .complain (.notProvided name)) := by
  intro p b env
  have hp : p = declared.withArgs (chain.flatMap (·.1)) (chain.flatMap (·.2)) :=
    declared.foldl_withArgs chain
  have htokens : b.required = declared.tokens := by
    show p.tokens = declared.tokens
    rw [hp, ServiceProgram.withArgs_tokens]
  refine ⟨ServiceProgram.ofTokens_names nameOf, ⟨htokens, ?_, ?_, ?_⟩, ?_, ?_, ?_⟩
  · show p.factory = declared.factory
    rw [hp, ServiceProgram.withArgs_factory]
  · rw [hp]
    rfl
  · rw [hp]
    rfl
  · intro before t after e hsplit hbefore henv h r s'
    exact launch_missing (hsplit ▸ hhost) hbefore henv (htokens.trans hsplit)
  · intro hprovided h r s'
    exact launch_provided hhost hprovided htokens
  · intro program s h r s' hc
    exact ⟨(Run.completes_iff.1 hc).1.seeks.not_builds, completes_without_complaint hc hhost⟩

end

/-! ### Two calls -/

section

open Script

/-- Missing services are told by one error. -/
def spentKeys : Absence Value Fault where
  tells _ e := e matches .spent
  missing _ := .spent
  tells_missing _ := rfl

/-- A host whose environment is given, and which counts how often a program is resumed. Tokens tell
themselves. The program `0` yields the token `2` and then ends; the factory returns it. -/
def declaring (env : Value → Except Fault Value) : Host Value Fault ℕ
  | .find name, n => (.ofResult (spentKeys.tells name) (env name), n)
  | .inspect (.object 2) .payload, n => (.ok ⟨true, false, false, false, false, false⟩, n)
  | .inspect _ _, n => (.ok synchronous, n)
  | .resume .., 0 => (.yields (.object 2), 1)
  | .resume .., n => (.ends (.object n), n + 1)
  | .due, n => (.goOn, n)
  | .nameOf token, n => (.ok token, n)
  | .valueOf completion, n => (.ok completion, n)
  | .build .., n => (.ok (.object 0), n)
  | .complain _, n => (.spent, n)
  | .handle _, n | .handled, n => ((), n)
  | .barred, n | .close .., n | .report _, n | .discard _, n => (none, n)

lemma declaring_steady (env : Value → Except Fault Value) (tokens : List Value) :
    (declaring env).Steady spentKeys env id tokens where
  finds _ _ := rfl
  tells _ _ _ := rfl
  logs _ _ := rfl
  complains _ _ := rfl

/-- A service program with one declared token; how services and arguments are packed does not
matter here. -/
def declaringOne : ServiceProgram Value Value := .ofTokens id [.object 2] .none

/-- Everything is packed as nothing. -/
def packedAway : Packing Value Value := ⟨fun _ => .none, fun _ => .none, fun _ => .none⟩

/-- A mapping that is keyed by the token provides it: the call returns, and before that the factory
was called. -/
theorem declared_token_is_provided :
    let given : Implementations Value Unit Fault :=
      .mapping [(.token ⟨.object 2, ()⟩, .object 7)]
    let host := declaring (given.lookup spentKeys)
    host.Steady spentKeys (given.lookup spentKeys) id declaringOne.tokens ∧
    ∃ h rest, (Run.launch .cooperative (declaringOne.blueprint packedAway)).Completes .cooperative
        host 0 h (.ok (.object 1)) 2 ∧
      h = checks spentKeys (given.lookup spentKeys) id [.object 2] ++
        ⟨.build .none .none .none .none, .ok (.object 0)⟩ :: rest ∧
      (Run.start .cooperative (.object 0)).Completes .cooperative host 0 rest
        (.ok (.object 1)) 2 := by
  intro given host
  have hhost : host.Steady spentKeys (given.lookup spentKeys) id declaringOne.tokens :=
    declaring_steady _ _
  obtain ⟨-, -, -, hprovided, -⟩ :=
    service_program_checks_first declaringOne packedAway [] given hhost .cooperative 0
  have hp : Provided (given.lookup spentKeys) id declaringOne.tokens :=
    List.forall_mem_singleton.2 ⟨.object 7, rfl⟩
  have hconduct : (Run.launch .cooperative (declaringOne.blueprint packedAway)).conduct
      .cooperative host 40 0 = (some (.ok (.object 1)), 2) := rfl
  obtain ⟨h, hcall⟩ := Run.completes_of_conduct hconduct
  obtain ⟨rest, hh, hrest⟩ := (hprovided hp h _ _).1 hcall
  exact ⟨hhost, h, rest, hcall, hh, hrest⟩

/-- An environment fails with the end signal of a generator. Run in one go the call fails with that
very error, but run cooperatively it fails with another one. -/
theorem check_error_is_replaced :
    let e : Fault := .raised .ended 1
    let given : Implementations Value Unit Fault := .object fun _ => .error e
    let host := declaring (given.lookup spentKeys)
    host.Steady spentKeys (given.lookup spentKeys) id declaringOne.tokens ∧
    spentKeys.tells (.object 2) e = false ∧
    (∃ h, (Run.launch .blocking (declaringOne.blueprint packedAway)).Completes .blocking host 0 h
      (.error e) 0) ∧
    ∃ h e', (Run.launch .cooperative (declaringOne.blueprint packedAway)).Completes .cooperative
      host 0 h (.error e') 0 ∧ e' ≠ e := by
  intro e given host
  have hblocking : (Run.launch .blocking (declaringOne.blueprint packedAway)).conduct .blocking
      host 40 0 = (some (.error e), 0) := rfl
  have hcooperative : (Run.launch .cooperative (declaringOne.blueprint packedAway)).conduct
      .cooperative host 40 0 = (some (.error (.stopped .coroutine 1)), 0) := rfl
  obtain ⟨h, hcall⟩ := Run.completes_of_conduct hcooperative
  exact ⟨declaring_steady _ _, rfl, Run.completes_of_conduct hblocking, h, _, hcall,
    Fault.noConfusion⟩

end

end Provision
