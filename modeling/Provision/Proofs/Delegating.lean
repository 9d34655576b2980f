import Provision.Delegation
import Provision.Proofs.Evaluation
import Provision.Proofs.Protocols

/-!
Delegating: a host in which one program delegates where it would suspend.

`Host.delegating` changes a host in one program only: at some of its suspensions this one delegates
to what would be its payload (`Delegation`). Whatever is asked of anything else goes to the host as
before, and so does what the delegation itself asks.

* `Host.Mirrors.answers` and `Host.Mirrors.sameCourse`: hosts that answer alike in related states
  answer the same histories and conduct the same runs;
* `Run.Goes.conduct_iff`: a run is conducted as it is from any place that it comes to;
* `Host.Generator.token_mirrors`: delegating to a token is yielding it, whatever the generator is
  asked to do, unless an end signal or no error at all is thrown into it;
* `Run.Goes.passes`: no run throws what its cancellation does not tell it to.
-/

namespace Provision

variable {V E γ σ τ : Type}

/-! ### Hosts that answer alike -/

/-- Two hosts answer some requests alike in related states. -/
def Host.Mirrors (host : Host V E σ) (host' : Host V E τ) (ok : Request V E → Prop)
    (S : σ → τ → Prop) : Prop :=
  ∀ s t (q : Request V E), ok q → S s t →
    (host' q t).1 = (host q s).1 ∧ S (host q s).2 (host' q t).2

section

variable {host : Host V E σ} {host' : Host V E τ} {ok : Request V E → Prop} {S : σ → τ → Prop}

lemma Host.Mirrors.flip (hm : host.Mirrors host' ok S) :
    host'.Mirrors host ok fun t s => S s t := fun t s q hq hst =>
  ⟨(hm s t q hq hst).1.symm, (hm s t q hq hst).2⟩

lemma Host.Mirrors.answers (hm : host.Mirrors host' ok S) {h : History V E}
    (hh : ∀ x ∈ h, ok x.request) {s s' : σ} {t : τ} (hst : S s t) (hs : host.Answers s h s') :
    ∃ t', S s' t' ∧ host'.Answers t h t' := by
  induction h generalizing s t with
  | nil =>
    obtain rfl := hs
    exact ⟨t, hst, rfl⟩
  | cons x h ih =>
    obtain ⟨hx, hh⟩ := List.forall_mem_cons.1 hh
    obtain ⟨ha, hst⟩ := hm s t x.request hx hst
    obtain ⟨t', hst', ht'⟩ := ih hh hst hs.2
    exact ⟨t', hst', hs.1.trans ha.symm, ht'⟩

/-- Two hosts take a run to the same results and leave off in related states. -/
def Run.SameCourse [ValueLike V] [ErrorLike E] (m : Manner) (host : Host V E σ)
    (host' : Host V E τ) (S : σ → τ → Prop) (r : Run V E) (s : σ) (t : τ) : Prop :=
  (∀ fuel x s', r.conduct m host fuel s = (some x, s') →
    ∃ fuel' t', r.conduct m host' fuel' t = (some x, t') ∧ S s' t') ∧
  ∀ fuel x t', r.conduct m host' fuel t = (some x, t') →
    ∃ fuel' s', r.conduct m host fuel' s = (some x, s') ∧ S s' t'

variable [ValueLike V] [ErrorLike E] {m : Manner}

lemma Run.SameCourse.mono {S' : σ → τ → Prop} {r : Run V E} {s : σ} {t : τ}
    (hr : r.SameCourse m host host' S s t) (hS : ∀ s t, S s t → S' s t) :
    r.SameCourse m host host' S' s t := by
  constructor
  · intro fuel x s' hc
    obtain ⟨fuel', t', hc', hst⟩ := hr.1 fuel x s' hc
    exact ⟨fuel', t', hc', hS _ _ hst⟩
  · intro fuel x t' hc
    obtain ⟨fuel', s', hc', hst⟩ := hr.2 fuel x t' hc
    exact ⟨fuel', s', hc', hS _ _ hst⟩

/-- Hosts that mirror each other in all that a run asks of them take it the same way. -/
lemma Host.Mirrors.sameCourse (hm : host.Mirrors host' ok S) {r : Run V E} {s : σ} {t : τ}
    (hst : S s t)
    (hok : ∀ h r' s', host.Answers s h s' → r.Goes m h r' → ∀ x ∈ h, ok x.request)
    (hok' : ∀ h r' t', host'.Answers t h t' → r.Goes m h r' → ∀ x ∈ h, ok x.request) :
    r.SameCourse m host host' S s t := by
  constructor
  · intro fuel x s' hc
    obtain ⟨h, hs, hg⟩ := Run.goes_of_conduct hc
    obtain ⟨t', hst', ht⟩ := hm.answers (hok h _ s' hs hg) hst hs
    obtain ⟨fuel', hc'⟩ := Run.conduct_of_goes hg ht
    exact ⟨fuel', t', hc', hst'⟩
  · intro fuel x t' hc
    obtain ⟨h, ht, hg⟩ := Run.goes_of_conduct hc
    obtain ⟨s', hst', hs⟩ := hm.flip.answers (hok' h _ t' ht hg) hst ht
    obtain ⟨fuel', hc'⟩ := Run.conduct_of_goes hg hs
    exact ⟨fuel', s', hc', hst'⟩

/-- From wherever a run comes to with a host, it is conducted as from its start. -/
lemma Run.Goes.conduct_iff {r r' : Run V E} {h : History V E} (hg : r.Goes m h r') {s s' z : σ}
    (hs : host.Answers s h s') {x : Except E V} :
    (∃ fuel, r.conduct m host fuel s = (some x, z)) ↔
      ∃ fuel, r'.conduct m host fuel s' = (some x, z) := by
  have hnone : ∀ {r : Run V E} {s : σ}, r.conduct m host 0 s ≠ (some x, z) := fun h =>
    nomatch congrArg Prod.fst h
  induction hg generalizing s with
  | here r =>
    obtain rfl := hs
    rfl
  | decided _ ih =>
    refine .trans ?_ (ih hs)
    constructor
    · rintro ⟨_ | fuel, hc⟩
      · exact absurd hc hnone
      · exact ⟨fuel, hc⟩
    · rintro ⟨fuel, hc⟩
      exact ⟨fuel + 1, hc⟩
  | answered a _ ih =>
    obtain ⟨rfl, hn⟩ := Host.answers_cons.1 hs
    refine .trans ?_ (ih hn)
    constructor
    · rintro ⟨_ | fuel, hc⟩
      · exact absurd hc hnone
      · exact ⟨fuel, hc⟩
    · rintro ⟨fuel, hc⟩
      exact ⟨fuel + 1, hc⟩

/-- What holds of every result with the first host can be said of the related states as well. -/
lemma Run.SameCourse.and_left {P : σ → Prop} {r : Run V E} {s : σ} {t : τ}
    (hr : r.SameCourse m host host' S s t)
    (hP : ∀ fuel x s', r.conduct m host fuel s = (some x, s') → P s') :
    r.SameCourse m host host' (fun s t => S s t ∧ P s) s t := by
  constructor
  · intro fuel x s' hc
    obtain ⟨fuel', t', hc', hst⟩ := hr.1 fuel x s' hc
    exact ⟨fuel', t', hc', hst, hP fuel x s' hc⟩
  · intro fuel x t' hc
    obtain ⟨fuel', s', hc', hst⟩ := hr.2 fuel x t' hc
    exact ⟨fuel', s', hc', hst, hP fuel' x s' hc'⟩

/-- Two hosts with which a run comes to the same place take it the same way if they do so from
there. -/
lemma Run.SameCourse.of_goes {r r' : Run V E} {h h' : History V E} {s s' : σ} {t t' : τ}
    (hr : r'.SameCourse m host host' S s' t') (hg : r.Goes m h r') (hs : host.Answers s h s')
    (hg' : r.Goes m h' r') (ht : host'.Answers t h' t') : r.SameCourse m host host' S s t := by
  constructor
  · intro fuel x z hc
    obtain ⟨fuel₁, hc₁⟩ := (hg.conduct_iff hs).1 ⟨fuel, hc⟩
    obtain ⟨fuel₂, z', hc₂, hz⟩ := hr.1 fuel₁ x z hc₁
    obtain ⟨fuel', hc'⟩ := (hg'.conduct_iff ht).2 ⟨fuel₂, hc₂⟩
    exact ⟨fuel', z', hc', hz⟩
  · intro fuel x z hc
    obtain ⟨fuel₁, hc₁⟩ := (hg'.conduct_iff ht).1 ⟨fuel, hc⟩
    obtain ⟨fuel₂, z', hc₂, hz⟩ := hr.2 fuel₁ x z hc₁
    obtain ⟨fuel', hc'⟩ := (hg.conduct_iff hs).2 ⟨fuel₂, hc₂⟩
    exact ⟨fuel', z', hc', hz⟩

end

/-! ### A program that delegates -/

/-- The program is resumed or closed. -/
def Request.Drives (o : V) : Request V E → Prop
  | .resume .sync p _ => p = o
  | .close .sync p => p = o
  | _ => False

lemma Request.Drives.cases {o : V} {q : Request V E} (hq : q.Drives o) :
    (∃ how, q = .resume .sync o how) ∨ q = .close .sync o := by
  cases q with
  | resume via p how =>
    cases via with
    | sync =>
      obtain rfl : p = o := hq
      exact .inl ⟨how, rfl⟩
    | async => exact hq.elim
  | close via p =>
    cases via with
    | sync =>
      obtain rfl : p = o := hq
      exact .inr rfl
    | async => exact hq.elim
  | _ => exact hq.elim

/-- How the host resumes a program by itself. -/
def Host.own (host : Host V E σ) (o : V) (how : Resumption V E) : StateM σ (Signal V E) :=
  host (.resume .sync o how)

/-- An answer, with a state of which it is a part where something stands. -/
def Delegation.beside {α : Type} (x : (α × Delegation.Stage γ) × σ) :
    α × σ × Delegation.Stage γ := (x.1.1, x.2, x.1.2)

section

variable [ValueLike V] [ErrorLike E] [DecidableEq V]

/-- The host in which `o` delegates. What closing a generator comes to that ignores its being closed
is `ignored`. -/
def Host.delegating (host : Host V E σ) (o : V) (d : Delegate (StateM σ) V E γ) (ignored : E) :
    Host V E (σ × Delegation.Stage γ)
  | .resume .sync p how, x =>
    if p = o then Delegation.beside (Delegation.resume (host.own o) d x.2 how x.1)
    else ((host (.resume .sync p how) x.1).1, (host (.resume .sync p how) x.1).2, x.2)
  | .close .sync p, x =>
    if p = o then Delegation.beside
      (Delegation.close (host.own o) d (host (.close .sync o)) ignored x.2 x.1)
    else ((host (.close .sync p) x.1).1, (host (.close .sync p) x.1).2, x.2)
  | q, x => ((host q x.1).1, (host q x.1).2, x.2)

variable {host : Host V E σ} {o : V} {d : Delegate (StateM σ) V E γ} {ignored : E}

lemma delegating_resume (how : Resumption V E) (s : σ) (stage : Delegation.Stage γ) :
    host.delegating o d ignored (.resume .sync o how) (s, stage) =
      Delegation.beside (Delegation.resume (host.own o) d stage how s) := if_pos rfl

lemma delegating_close (s : σ) (stage : Delegation.Stage γ) :
    host.delegating o d ignored (.close .sync o) (s, stage) =
      Delegation.beside (Delegation.close (host.own o) d (host (.close .sync o)) ignored stage s) :=
  if_pos rfl

/-- Closing a generator that has still to delegate is throwing the closing signal into it. -/
lemma delegating_close_thrown {stage : Delegation.Stage γ} (hstage : stage ≠ .outside []) (s : σ) :
    host.delegating o d ignored (.close .sync o) (s, stage) =
      let x := host.delegating o d ignored (.resume .sync o (.throw ErrorLike.exit)) (s, stage)
      (x.1.closed ignored, x.2) := by
  rw [delegating_close, delegating_resume]
  match stage with
  | .outside [] => exact absurd rfl hstage
  | .outside (n :: points) => rfl
  | .inside g points => rfl

/-- Nothing else is changed. -/
lemma delegating_apart {q : Request V E} (hq : ¬q.Drives o) (s : σ) (stage : Delegation.Stage γ) :
    host.delegating o d ignored q (s, stage) = ((host q s).1, (host q s).2, stage) := by
  cases q with
  | resume via p how =>
    cases via with
    | sync => exact if_neg hq
    | async => rfl
  | close via p =>
    cases via with
    | sync => exact if_neg hq
    | async => rfl
  | _ => rfl

omit [DecidableEq V] [ErrorLike E] in
/-- A generator that ends or fails is left as it is. -/
lemma respond_over {own : Resumption V E → StateM σ (Signal V E)} (points : List ℕ)
    {a : Signal V E} (ha : ∀ v, a ≠ .yields v) :
    Delegation.respond own d points a = pure (a, .outside points) := by
  cases a with
  | yields v => exact absurd rfl (ha v)
  | ends v => obtain _ | ⟨_ | n, points⟩ := points <;> rfl
  | raises e => obtain _ | ⟨_ | n, points⟩ := points <;> rfl

/-- A generator that does not delegate any more is what it was. -/
lemma delegating_idle (q : Request V E) (s : σ) :
    host.delegating o d ignored q (s, .outside []) = ((host q s).1, (host q s).2, .outside []) := by
  by_cases hq : q.Drives o
  · obtain ⟨how, rfl⟩ | rfl := hq.cases
    · exact delegating_resume how s _
    · exact delegating_close s _
  · exact delegating_apart hq s _

/-! ### Delegating to a token -/

/-- An error comes out of a generator as it was thrown into it, unless the generator handles it. -/
def Passes (e : E) : Prop := ErrorLike.nature e ≠ .ended ∧ ErrorLike.nature e ≠ .improper

def Resumption.Passes : Resumption V E → Prop
  | .send _ => True
  | .throw e => Provision.Passes e

/-- Nothing is thrown into the program that does not come out of a generator again. -/
def Request.Passes (o : V) : Request V E → Prop
  | .resume .sync p how => p = o → how.Passes
  | _ => True

/-- The program is a generator: to close it is to throw the closing signal into it. -/
def Host.Generator (host : Host V E σ) (o : V) (ignored : E) : Prop :=
  ∀ s, host (.close .sync o) s =
    ((host (.resume .sync o (.throw ErrorLike.exit)) s).1.closed ignored,
      (host (.resume .sync o (.throw ErrorLike.exit)) s).2)

/-- The iterator of a token has yielded the token when the generator is suspended in it. -/
def Delegation.Stage.Begun : Delegation.Stage (V × Bool) → Prop
  | .outside _ => True
  | .inside g _ => g.2 = true

variable {out : E → E}

omit [ErrorLike E] [DecidableEq V] in
lemma respond_token {own : Resumption V E → StateM σ (Signal V E)} (points : List ℕ)
    (a : Signal V E) (s : σ) : ∃ stage, stage.Begun ∧
      Delegation.respond own (.token out) points a s = ((a, stage), s) := by
  cases a with
  | yields v =>
    match points with
    | [] => exact ⟨.outside [], trivial, rfl⟩
    | 0 :: points => exact ⟨.inside (v, true) points, rfl, rfl⟩
    | (n + 1) :: points => exact ⟨.outside (n :: points), trivial, rfl⟩
  | ends v =>
    rw [respond_over points nofun]
    exact ⟨.outside points, trivial, rfl⟩
  | raises e =>
    rw [respond_over points nofun]
    exact ⟨.outside points, trivial, rfl⟩

omit [DecidableEq V] in
/-- Resuming a generator that delegates to a token is resuming the generator that yields it. -/
lemma resume_token (own : Resumption V E → StateM σ (Signal V E))
    (hout : ∀ e, Passes e → out e = e) {stage : Delegation.Stage (V × Bool)}
    (hstage : stage.Begun) {how : Resumption V E} (hhow : how.Passes) (s : σ) :
    ∃ stage', stage'.Begun ∧ Delegation.resume own (.token out) stage how s =
      (((own how s).1, stage'), (own how s).2) := by
  have hgoOn : ∀ points (how : Resumption V E), ∃ stage', stage'.Begun ∧
      Delegation.goOn own (.token out) points how s =
        (((own how s).1, stage'), (own how s).2) :=
    fun points how => respond_token points _ _
  cases stage with
  | outside points => exact hgoOn points how
  | inside g points =>
    obtain ⟨v, begun⟩ := g
    obtain rfl : begun = true := hstage
    cases how with
    | send w => exact hgoOn points (.send w)
    | throw e =>
      have hthrow := hgoOn points (.throw (out e))
      rw [hout e hhow] at hthrow
      have hraises : (Delegate.token out : Delegate (StateM σ) V E _).resume (v, true) (.throw e) =
          pure (.raises e, v, true) := by
        simp only [Delegate.token, iteration, hout e hhow]
      simp only [Delegation.resume, hraises]
      -- The closing signal closes the iterator, which comes to nothing; anything else comes out of it.
      cases ErrorLike.nature e <;> exact hthrow

/-- Delegating to a token is yielding it, whatever the generator is asked to do. -/
lemma Host.Generator.token_mirrors (hgenerator : host.Generator o ignored)
    (hexit : ErrorLike.nature (ErrorLike.exit : E) = .closing)
    (hout : ∀ e, Passes e → out e = e) :
    host.Mirrors (host.delegating o (.token out) ignored) (Request.Passes o)
      fun s t => t.1 = s ∧ t.2.Begun := by
  rintro _ ⟨s, stage⟩ q hq ⟨rfl, hstage⟩
  by_cases hdrives : q.Drives o
  · obtain ⟨how, rfl⟩ | rfl := hdrives.cases
    · obtain ⟨stage', hstage', heq⟩ := resume_token (host.own o) hout hstage (hq rfl) s
      rw [delegating_resume, heq]
      exact ⟨rfl, rfl, hstage'⟩
    · have hthrown : (Resumption.throw ErrorLike.exit : Resumption V E).Passes := by
        constructor <;> rw [hexit] <;> decide
      obtain ⟨stage', hstage', heq⟩ := resume_token (host.own o) hout hstage hthrown s
      by_cases hidle : stage = .outside []
      · obtain rfl := hidle
        rw [delegating_idle]
        exact ⟨rfl, rfl, trivial⟩
      · rw [delegating_close_thrown hidle, delegating_resume, heq, hgenerator s]
        exact ⟨rfl, rfl, hstage'⟩
  · rw [delegating_apart hdrives]
    exact ⟨rfl, rfl, hstage⟩

end

/-! ### What a run throws -/

section

variable [ErrorLike E]

/-- Everything is allowed but to throw what does not come out of a generator again. -/
def Licence.passing : Licence V E where
  drives _ _ := True
  throws := Passes
  takes _ := True
  discards _ := True
  refuses _ _ := True

variable {m : Manner} {h : History V E}

lemma Licence.passing_grants {x : Exchange V E}
    (hx : ∀ how, x = ⟨.due, .stop how⟩ → how.Passes) : Licence.passing.grants m x := by
  refine Licence.grants_of_free (fun _ _ => trivial) (fun _ => trivial) (fun _ _ => trivial) ?_
  intro how hhow
  have hpasses := hx how hhow
  cases how <;> exact hpasses

/-- A run throws nothing but what its cancellation tells it to. -/
lemma Run.Goes.passes [ValueLike V] {q : V} {r : Run V E} (hg : (Run.start m q).Goes m h r)
    (hdue : ∀ how, ⟨.due, .stop how⟩ ∈ h → how.Passes) (o : V) :
    ∀ x ∈ h, x.request.Passes o := by
  intro x hx
  obtain ⟨before, after, rfl⟩ := List.append_of_mem hx
  have hallows := hg.licensed (L := .passing) (fun _ => trivial) fun y hy =>
    Licence.passing_grants fun how hhow => hdue how (List.mem_append_left _ (hhow ▸ hy))
  obtain ⟨q, a⟩ := x
  cases q with
  | resume via p how =>
    obtain ⟨-, hhow⟩ := hallows
    cases via with
    | sync => cases how <;> exact fun _ => hhow
    | async => trivial
  | _ => trivial

omit [ErrorLike E] in
/-- Every answer is one that the host gives in some state. -/
lemma Host.Answers.given {host : Host V E σ} {s s' : σ} (hs : host.Answers s h s')
    {x : Exchange V E} (hx : x ∈ h) : ∃ t, x.answer = (host x.request t).1 := by
  induction h generalizing s with
  | nil => cases hx
  | cons y h ih =>
    obtain rfl | hx := List.mem_cons.1 hx
    · exact ⟨s, hs.1⟩
    · exact ih hs.2 hx

variable [ValueLike V] [DecidableEq V] {host : Host V E σ} {o q : V} {ignored : E} {out : E → E}
  {s s' : σ}

/-- A cancellation throws nothing that does not come out of a generator again. -/
def Host.Considerate (host : Host V E σ) : Prop :=
  ∀ s how, (host .due s).1 = .stop how → how.Passes

omit [DecidableEq V] in
lemma Host.Considerate.passes (hdue : host.Considerate) {r : Run V E}
    (hs : host.Answers s h s') (hg : (Run.start m q).Goes m h r) (o : V) :
    ∀ x ∈ h, x.request.Passes o := by
  refine hg.passes (fun how hx => ?_) o
  obtain ⟨t, ht⟩ := hs.given hx
  exact hdue t how ht.symm

lemma Host.Considerate.delegating (hdue : host.Considerate) (d : Delegate (StateM σ) V E γ) :
    (host.delegating o d ignored).Considerate := fun x => hdue x.1

section

variable (hgenerator : host.Generator o ignored)
  (hexit : ErrorLike.nature (ErrorLike.exit : E) = .closing) (hout : ∀ e, Passes e → out e = e)
include hgenerator hexit hout

/-- Whatever a generator is asked to do, it answers the same if it delegates to tokens where it
would yield them. -/
lemma Host.Generator.token_answers_iff (points : List ℕ) (hh : ∀ x ∈ h, x.request.Passes o) :
    host.Answers s h s' ↔ ∃ stage,
      (host.delegating o (.token out) ignored).Answers (s, .outside points) h (s', stage) := by
  have hm : host.Mirrors (host.delegating o (.token out) ignored) (Request.Passes o)
      fun s t => t.1 = s ∧ t.2.Begun := hgenerator.token_mirrors hexit hout
  have hstart : ((s, .outside points) : σ × Delegation.Stage (V × Bool)).1 = s ∧
      Delegation.Stage.Begun (.outside points : Delegation.Stage (V × Bool)) := ⟨rfl, trivial⟩
  constructor
  · intro hs
    obtain ⟨⟨_, stage⟩, ⟨rfl, -⟩, ht⟩ := hm.answers hh hstart hs
    exact ⟨stage, ht⟩
  · rintro ⟨stage, ht⟩
    obtain ⟨_, ⟨rfl, -⟩, hs⟩ := hm.flip.answers hh hstart ht
    exact hs

/-- With tokens a run goes the same way whether they are yielded or delegated to. -/
lemma Host.Generator.token_course (hdue : host.Considerate) (q : V) (s : σ) (points : List ℕ) :
    (Run.start m q).SameCourse m host (host.delegating o (.token out) ignored)
      (fun s t => t.1 = s) s (s, .outside points) := by
  refine Run.SameCourse.mono ((hgenerator.token_mirrors hexit hout).sameCourse ⟨rfl, trivial⟩
    (fun h r' s' hs hg => hdue.passes hs hg o)
    fun h r' t' ht hg => (hdue.delegating _).passes ht hg o) fun _ _ h => h.1

end

end

end Provision
