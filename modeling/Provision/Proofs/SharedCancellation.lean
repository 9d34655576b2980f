import Provision.Proofs.Sharing
import Provision.Proofs.ShortCircuit

/-!
Shared cancellations: nothing is resolved after the flag is raised.

`nothing_resolved_after_cancellation` is about any number of runs of both drivers that share one
cancellation, in any order of steps (`Pool.Reaches`), from the moment at which a stop is requested
for the first time. What it promises of each call is `Call.Winds`: no name is looked up any more, no
program is resumed for the first time, whoever suspends has the error of the stop thrown into it,
whoever ends still has its value delivered, and a call that has only begun comes to nothing but that
error.

* `Run.Next` and `Run.Delivers` say what a run does next;
* `Run.Speaks.next` reads that off the turn of its conversation.
-/

namespace Provision

variable {V E : Type}

/-! ### What a run does next -/

/-- Requests to resume a program. -/
def Request.isResume : Request V E → Bool
  | .resume .. => true
  | _ => false

/-- Requests that only say which error is being handled. -/
def Request.isHandling : Request V E → Bool
  | .handle _ => true
  | .handled => true
  | _ => false

/-- The next thing that a run asks, apart from what it says about handling errors, is such a request:
it has put it after the history, or it has put it in the history, and then the rest of the history
is as it should be after that exchange. -/
inductive Run.Next (r : Run V E) (Q : Request V E → Prop)
    (after : Exchange V E → History V E → Prop) : History V E → Prop
  | puts {q : Request V E} : r.asks = some q → Q q → Next r Q after []
  | handles {q : Request V E} : r.asks = some q → q.isHandling = true → Next r Q after []
  | passes {x : Exchange V E} {h : History V E} :
    x.request.isHandling = true → Next r Q after h → Next r Q after (x :: h)
  | answered {x : Exchange V E} {h : History V E} :
    Q x.request → after x h → Next r Q after (x :: h)

/-- A value is delivered: the program is closed, and unless that raises an error, the value is what
the run returns, or it is sent to the program of the innermost level that waits. -/
inductive Run.Delivers (r : Run V E) (p value : V) (waiting : List (Level V)) :
    History V E → Prop
  | closing {q : Request V E} :
    r.asks = some q → q.isHandling = true ∨ (∃ via, q = .close via p) → Delivers r p value waiting []
  | closes {x : Exchange V E} {h : History V E} :
    x.request.isHandling = true ∨ (∃ via, x = ⟨.close via p, none⟩) →
    Delivers r p value waiting h → Delivers r p value waiting (x :: h)
  | fails {via : Protocol} {e : E} {h : History V E} :
    Delivers r p value waiting (⟨.close via p, some e⟩ :: h)
  | returns : waiting = [] → r = .over (.ok value) → Delivers r p value waiting []
  | sends {l : Level V} {rest : List (Level V)} : waiting = l :: rest →
    r.asks = some (.resume l.via l.program (.send value)) → Delivers r p value waiting []
  | sent {l : Level V} {rest : List (Level V)} {a : Signal V E} {h : History V E} :
    waiting = l :: rest →
    Delivers r p value waiting (⟨.resume l.via l.program (.send value), a⟩ :: h)

/-! ### Speaking at a turn -/

/-- Turns in which a level neither leaves nor enters a nested program. -/
def Turn.Mid : Turn V E → Prop
  | .barring .. | .suspended .. | .asked .. | .stopping .. | .ended .. | .completing .. => True
  | .valuing .. => True
  | _ => False

section

variable [ValueLike V] [ErrorLike E] {k : Stopper V E} {m : Manner} {F : Cancellation V}
  {τ : Turn V E} {waiting : List (Level V)} {h : History V E} {r : Run V E}

omit [ErrorLike E] in
/-- What is said about handling errors does not matter for the turn. -/
lemma Turn.next_handling {x : Exchange V E} (hx : x.request.isHandling = true) : τ.next x = τ := by
  obtain ⟨q, a⟩ := x
  cases q <;> first | rfl | cases hx

/-- A level speaks at some turn, among the levels that wait, and the run goes on from there in a
history that is right about the flag. -/
def Run.Speaks (k : Stopper V E) (m : Manner) (F : Cancellation V) (τ : Turn V E)
    (waiting : List (Level V)) (h : History V E) (r : Run V E) : Prop :=
  ∃ t, t.Keeps k.conversation (fun s v => s.Settles m waiting v) ⟨F, τ⟩ ∧
    (Run.active waiting t).Goes m h r ∧ ∀ x ∈ h, k.Answers F x

/-- In the middle of its turn a level has put a request that is allowed, or it has got an answer and
speaks at the turn that follows. -/
lemma Run.Speaks.inv (hs : Run.Speaks k m F τ waiting h r) (hτ : τ.Mid) (hp : r.Poised) :
    (h = [] ∧ ∃ q, r.asks = some q ∧ τ.allows F.cancelled q) ∨
    ∃ x h', h = x :: h' ∧ τ.allows F.cancelled x.request ∧ k.Answers F x ∧
      Run.Speaks k m F (τ.next x) waiting h' r := by
  obtain ⟨t, ht, hg, hx⟩ := hs
  generalize hr₀ : Run.active waiting t = r₀ at hg
  induction hg generalizing t with
  | here r =>
    subst hr₀
    cases t with
    | done v => obtain ⟨q, hq⟩ | ⟨result, hq⟩ := hp <;> cases hq
    | ask q next => exact .inl ⟨rfl, q, rfl, ht.1⟩
  | @decided w v h r hg ih =>
    cases hr₀
    -- In these turns the only verdict is to throw the error of a stop.
    have hnext := next_converses (k := k) _ _ v ht
    cases τ with
    | stopping via p e =>
      cases v with
      | again l how => exact ih hp _ hnext hx rfl
      | enter | leave => cases ht.1
    | barring | suspended | asked | ended | completing | valuing => cases v <;> cases ht.1
    | _ => cases hτ
  | @answered w q next h r a hg ih =>
    cases hr₀
    refine .inr ⟨_, h, rfl, ht.1, hx _ List.mem_cons_self, next a, ?_, hg, ?_⟩
    · exact ht.2 a _ ⟨F, .inl rfl, fun _ _ => rfl, hx _ List.mem_cons_self, rfl⟩
    · exact fun y hy => hx y (List.mem_cons_of_mem _ hy)

/-- What comes next in the middle of a turn. -/
lemma Run.Speaks.next {Q : Request V E → Prop} {after : Exchange V E → History V E → Prop}
    (hs : Run.Speaks k m F τ waiting h r) (hτ : τ.Mid) (hp : r.Poised)
    (hQ : ∀ q, τ.allows F.cancelled q → q.isHandling = true ∨ Q q)
    (hafter : ∀ x h', Q x.request → k.Answers F x → Run.Speaks k m F (τ.next x) waiting h' r →
      after x h') : r.Next Q after h := by
  induction h with
  | nil =>
    obtain ⟨-, q, hq, ha⟩ | ⟨x, h', hx, -⟩ := hs.inv hτ hp
    · obtain hh | hh := hQ q ha
      · exact .handles hq hh
      · exact .puts hq hh
    · cases hx
  | cons x h ih =>
    obtain ⟨hx, -⟩ | ⟨x, h', hx, ha, hanswers, hs'⟩ := hs.inv hτ hp
    · cases hx
    · obtain ⟨rfl, rfl⟩ := List.cons.inj hx
      obtain hh | hh := hQ _ ha
      · rw [Turn.next_handling hh] at hs'
        exact .passes hh (ih hs')
      · exact .answered hh (hafter _ _ hh hanswers hs')

/-- A suspended level that is sent a value resumes its program first of all. -/
lemma Level.cycle_send (l : Level V) (hl : l.Suspended m) (v : V) :
    ∃ next, cycle m l (.send v : Resumption V E) =
      .ask (.resume l.via l.program (.send v)) next := by
  obtain ⟨program, via | stage⟩ := l
  · exact ⟨_, rfl⟩
  · cases m with
    | blocking => cases hl
    | cooperative =>
      obtain rfl : stage = .waiting := hl
      exact ⟨_, rfl⟩

omit [ValueLike V] [ErrorLike E] in
/-- Whoever is leaving with a value may only close its program. -/
lemma Turn.allows_leaving {raised : Bool} {p v : V} {q : Request V E}
    (hq : (Turn.leaving p v).allows raised q) : q.isHandling = true ∨ ∃ via, q = .close via p := by
  cases q with
  | close via p' =>
    obtain rfl : p' = p := hq
    exact .inr ⟨via, rfl⟩
  | handle | handled => exact .inl rfl
  | inspect _ role => cases role <;> cases hq
  | resume _ _ how => cases how <;> cases hq
  | report r => cases r <;> cases hq
  | _ => cases hq

/-- Whoever is leaving with a value delivers it. -/
lemma Run.Speaks.delivers {p v : V} (hs : Run.Speaks k m F (.leaving p v) waiting h r)
    (hp : r.Poised) : r.Delivers p v waiting h := by
  obtain ⟨t, ht, hg, hx⟩ := hs
  induction t generalizing h with
  | done w =>
    cases hg with
    | here => obtain ⟨q, hq⟩ | ⟨result, hq⟩ := hp <;> cases hq
    | decided hg =>
      obtain ⟨hw, hwaiting⟩ := ht
      cases w with
      | again | enter => cases hw
      | leave result =>
        obtain rfl : result = .ok v := hw
        cases waiting with
        | nil =>
          obtain ⟨rfl, rfl⟩ := hg.of_over
          exact .returns rfl rfl
        | cons l rest =>
          obtain ⟨next, hnext⟩ := l.cycle_send (E := E) (hwaiting l List.mem_cons_self) v
          have hg : (Run.active rest (.ask _ next)).Goes m h r := hnext ▸ hg
          cases hg with
          | here => exact .sends rfl rfl
          | answered a hg => exact .sent rfl
  | ask q next ih =>
    have hq : q.isHandling = true ∨ ∃ via, q = .close via p := Turn.allows_leaving ht.1
    cases hg with
    | here => exact .closing rfl hq
    | @answered _ _ _ h _ a hg =>
      have hkeep : (next a).Keeps k.conversation (fun s v => s.Settles m waiting v)
          ⟨F, (Turn.leaving p v).next ⟨q, a⟩⟩ :=
        ht.2 a _ ⟨F, .inl rfl, fun _ _ => rfl, hx _ List.mem_cons_self, rfl⟩
      have hrest : ∀ x ∈ h, k.Answers F x := fun y hy => hx y (List.mem_cons_of_mem _ hy)
      obtain hh | ⟨via, rfl⟩ := hq
      · rw [Turn.next_handling hh] at hkeep
        exact .closes (.inl hh) (ih a hkeep hg hrest)
      · cases a with
        | some e => exact .fails
        | none => exact .closes (.inr ⟨via, rfl⟩) (ih none hkeep hg hrest)

/-- A run keeps to the conversation, at the end of one talk or at the beginning of the next. -/
def Run.Heeds (k : Stopper V E) (m : Manner) (r : Run V E) (s : Standing V E) : Prop :=
  r.Keeps k.conversation (Standing.Settles m) Standing.Concludes s ∨
    r.Keeps k.conversation (Standing.Settles m) Standing.Concludes (k.conversation.turned s)

/-- A run that has put a request may put it. -/
lemma Run.Heeds.allows {s : Standing V E} {q : Request V E} (hr : r.Heeds k m s)
    (hq : r.asks = some q) :
    s.turn.allows s.flag.cancelled q ∨ s.turn.turned.allows s.flag.cancelled q := by
  obtain ⟨w, next, rfl⟩ := Run.asks_eq hq
  exact hr.imp And.left And.left

/-- A run that is at a request goes on at the turn that follows. -/
lemma Run.Heeds.speaks {s : Standing V E} {x : Exchange V E}
    {next : x.request.Answer → Talk V E (Verdict V E)}
    (hr : (Run.active waiting (.ask x.request next)).Heeds k m s) (hflag : s.flag.Grows F)
    (hname : ∀ token, x.request = .nameOf token → F = s.flag)
    (hg : (Run.active waiting (next x.answer)).Goes m h r) (hh : ∀ y ∈ x :: h, k.Answers F y) :
    Run.Speaks k m F (s.turn.next x) waiting h r := by
  have hmoves : k.conversation.moves s x ⟨F, s.turn.next x⟩ :=
    ⟨F, hflag, hname, hh x List.mem_cons_self, rfl⟩
  refine ⟨next x.answer, ?_, hg, fun y hy => hh y (List.mem_cons_of_mem _ hy)⟩
  obtain hr | hr := hr
  · exact hr.2 _ _ hmoves
  · exact hr.2 _ _ (k.conversation.moves_turned hr.1 hmoves)

/-! ### Calls that go on while the flag is raised -/

/-- Where the conversation of a call stands that has gone on with a raised flag. -/
lemma Call.Continues.stands {c c' : Call V E} (hc : c.Sound k F)
    (hcc : Call.Continues k F c h c') :
    ∃ s, s.turn = c'.history.foldl Turn.next .outside ∧ s.flag.Grows F ∧
      (h ≠ [] ∨ ¬ c.run.Parked → s.flag = F) ∧ c'.run.Heeds k c.manner s := by
  obtain ⟨f, s, hs, hflag, hpark⟩ := hc.watched
  have hgoes := hc.goes.append hcc.goes
  have hstays : s.turn = c.history.foldl Turn.next .outside := hs.turn_eq
  cases h with
  | nil =>
    rw [hcc.history, List.append_nil]
    rw [List.append_nil] at hgoes
    exact ⟨s, hstays, hflag, fun h => hpark (h.resolve_left fun h => h rfl), hgoes.converses hs⟩
  | cons x h =>
    have hname : ∀ token, x.request = .nameOf token → F = s.flag := fun token htoken =>
      (hpark fun hparked => hparked token <| by
        rw [hcc.goes.asks_of_cons hc.poised, htoken]).symm
    have hall := hs.append (watches_raised hflag hname hcc.right)
    refine ⟨_, ?_, .inl rfl, fun _ => rfl, hgoes.converses hall⟩
    rw [hcc.history, List.foldl_append, ← hstays]

/-- A call that has got an answer speaks at the turn that follows. -/
lemma Call.Continues.speaks {c c' : Call V E} {h₁ h₂ : History V E} {x : Exchange V E}
    (hc : c.Sound k F) (hcc : Call.Continues k F c (h₁ ++ x :: h₂) c') :
    ∃ waiting next, (Run.start c.manner c.program).Goes c.manner (c.history ++ h₁)
        (.active waiting (.ask x.request next)) ∧
      Run.Speaks k c.manner F (((c.history ++ h₁).foldl Turn.next .outside).next x) waiting h₂
        c'.run := by
  obtain ⟨r₁, hr₁, hr₂⟩ := hcc.goes.split
  obtain ⟨waiting, next, hask, hnext⟩ := hr₂.cons_inv
  have hat := hr₁.append hask
  rw [List.append_nil] at hat
  have hright : ∀ y ∈ h₁, k.Answers F y := fun y hy => hcc.right y (List.mem_append_left _ hy)
  have hmid : Call.Continues k F c h₁
      { c with history := c.history ++ h₁, run := .active waiting (.ask x.request next) } :=
    ⟨rfl, rfl, rfl, hat, hright⟩
  obtain ⟨s, hs, hflag, hsame, hheeds⟩ := hmid.stands hc
  refine ⟨waiting, next, hc.goes.append hat, ?_⟩
  rw [← show s.turn = _ from hs]
  refine hheeds.speaks hflag (fun token htoken => (hsame ?_).symm) hnext
    fun y hy => hcc.right y (List.mem_append_right _ hy)
  -- A name is read right after something else that the call has asked, or it was asked for before.
  by_cases hh₁ : h₁ = []
  · subst hh₁
    refine .inr fun hparked => hparked token ?_
    rw [hcc.goes.asks_of_cons hc.poised, htoken]
  · exact .inl hh₁

/-- A request that a call has put after an answer is one that it may put while the flag is raised. -/
lemma Call.Continues.allows {c c' : Call V E} (hc : c.Sound k F)
    (hcc : Call.Continues k F c h c') {qs qs' : List (Request V E)} {q : Request V E}
    (hq : c'.run.puts h = qs ++ q :: qs') (hqs : qs ≠ []) :
    ∃ h₁, h₁.map (·.request) = qs ∧
      (((c.history ++ h₁).foldl Turn.next .outside).allows F.cancelled q ∨
        ((c.history ++ h₁).foldl Turn.next .outside).turned.allows F.cancelled q) := by
  obtain ⟨h₁, h₂, r₁, rfl, rfl, hr₁, hr₁q⟩ := hcc.goes.put_inv hq
  have hmid : Call.Continues k F c h₁ { c with history := c.history ++ h₁, run := r₁ } :=
    ⟨rfl, rfl, rfl, hr₁, fun y hy => hcc.right y (List.mem_append_left _ hy)⟩
  obtain ⟨s, hs, -, hsame, hheeds⟩ := hmid.stands hc
  have hflag : s.flag = F := hsame (.inl fun h => hqs (by rw [h]; rfl))
  refine ⟨h₁, rfl, ?_⟩
  rw [← show s.turn = _ from hs, ← hflag]
  exact hheeds.allows hr₁q

/-! ### What follows on the answers of a program -/

variable {via : Protocol} {p payload v : V}

/-- A level that speaks after its program has suspended inspects the payload. -/
lemma Run.Speaks.inspects (hs : Run.Speaks k m F (.suspended via p payload) waiting h r)
    (hp : r.Poised) {after : Exchange V E → History V E → Prop}
    (hafter : ∀ a h', Run.Speaks k m F (Turn.inspected (.suspended via p payload) a) waiting h' r →
      after ⟨.inspect payload .payload, a⟩ h') :
    r.Next (· = .inspect payload .payload) after h := by
  refine hs.next trivial hp (fun q hq => ?_) fun x h' hx _ hs' => ?_
  · cases q with
    | inspect payload' role =>
      cases role with
      | payload =>
        obtain rfl : payload' = payload := hq
        exact .inr rfl
      | program => cases hq
    | handled => exact .inl rfl
    | _ => cases hq
  · obtain ⟨q, a⟩ := x
    obtain rfl : q = _ := hx
    exact hafter a h' hs'

/-- With the flag raised, a level that has read a payload it could answer asks for the cancellation
instead, and throws the error of the stop into its program. -/
lemma Run.Speaks.throws (hs : Run.Speaks k m F (.asked via p) waiting h r) (hp : r.Poised)
    (hF : F.cancelled = true) :
    r.Next (· = .due) (fun x h' => ∃ e, k.tells F.reason e ∧ x = ⟨.due, .stop (.throw e)⟩ ∧
      r.Next (· = .resume via p (.throw e)) (fun _ _ => True) h') h := by
  refine hs.next trivial hp (fun q hq => ?_) fun x h' hx hx' hs' => ?_
  · cases q with
    | due => exact .inr rfl
    | _ => cases hq
  · obtain ⟨q, a⟩ := x
    obtain rfl : q = .due := hx
    obtain ⟨e, he, rfl⟩ := (answers_due_of_raised hF).1 hx'
    refine ⟨e, he, rfl, Run.Speaks.next hs' trivial hp (fun q hq => ?_) fun _ _ _ _ _ => trivial⟩
    cases q with
    | handle e' => exact .inl rfl
    | resume via' p' how =>
      cases how with
      | send v => cases hq
      | throw e' =>
        obtain ⟨rfl, rfl, rfl⟩ : via' = via ∧ p' = p ∧ e' = e := hq
        exact .inr rfl
    | _ => cases hq

/-- The request to report that a program has finished. -/
def Request.reportsEnd (p : V) (q : Request V E) : Prop :=
  ∃ m form, q = .report (.finished m p form)

omit [ValueLike V] [ErrorLike E] in
/-- What may be put in these turns is the report that the program has finished. -/
lemma Turn.allows_report {raised : Bool} {q : Request V E}
    (hq : (Turn.ended p v).allows raised q ∨ (Turn.completing p v).allows raised q) :
    q.isHandling = true ∨ q.reportsEnd p := by
  cases q with
  | handled => exact .inl rfl
  | report record =>
    cases record with
    | finished m p' form =>
      obtain rfl : p' = p := hq.elim id id
      exact .inr ⟨m, form, rfl⟩
    | _ => exact (hq.elim id id).elim
  | inspect _ role => cases role <;> exact (hq.elim id id).elim
  | resume _ _ how => cases how <;> exact (hq.elim id id).elim
  | _ => exact (hq.elim id id).elim

/-- A level whose program has ended reports that and delivers the value. -/
lemma Run.Speaks.hands (hs : Run.Speaks k m F (.ended p v) waiting h r) (hp : r.Poised) :
    r.Next (Request.reportsEnd p) (fun x h' => ∀ record, x = ⟨.report record, none⟩ →
      r.Delivers p v waiting h') h := by
  refine hs.next trivial hp (fun q hq => Turn.allows_report (.inl hq)) fun x h' _ _ hs' => ?_
  rintro record rfl
  exact Run.Speaks.delivers hs' hp

/-- A level whose program has yielded a completion reports that and delivers the value in it. -/
lemma Run.Speaks.completes (hs : Run.Speaks k m F (.completing p payload) waiting h r)
    (hp : r.Poised) :
    r.Next (Request.reportsEnd p) (fun x h' => ∀ record, x = ⟨.report record, none⟩ →
      r.Next (· = .valueOf payload) (fun x h'' => ∀ v, x = ⟨.valueOf payload, .ok v⟩ →
        r.Delivers p v waiting h'') h') h := by
  refine hs.next trivial hp (fun q hq => Turn.allows_report (.inr hq)) fun x h' _ _ hs' => ?_
  rintro record rfl
  refine Run.Speaks.next hs' trivial hp (fun q hq => ?_) fun x h'' _ _ hs'' => ?_
  · cases q with
    | valueOf payload' =>
      obtain rfl : payload' = payload := hq
      exact .inr rfl
    | _ => cases hq
  · rintro v rfl
    exact Run.Speaks.delivers hs'' hp

/-! ### Calls that are not begun any more -/

/-- A level that may not start closes its program. -/
lemma Run.Speaks.closes {e : E} (hs : Run.Speaks k m F (.barring p e) waiting h r)
    (hp : r.Poised) : r.Next (fun q => ∃ via, q = .close via p) (fun _ _ => True) h := by
  refine hs.next trivial hp (fun q hq => ?_) fun _ _ _ _ _ => trivial
  cases q with
  | handle e' => exact .inl rfl
  | close via p' =>
    obtain rfl : p' = p := hq
    exact .inr ⟨via, rfl⟩
  | _ => cases hq

/-- A call that may not start ends with the error of the stop, if nothing comes out of closing. -/
lemma Run.Goes.excluded {r₀ : Run V E} (hg : r₀.Goes m h r) {e : E}
    (hτ : τ = .barring p e ∨ τ = .excluded e) (hr₀ : r₀.Heeds k m ⟨F, τ⟩)
    (hh : ∀ x ∈ h, k.Answers F x) (hcalm : ∀ x ∈ h, x.calm = true) {result : Except E V}
    (hr : r = .over result) : result = .error e := by
  induction h generalizing r₀ τ with
  | nil =>
    subst hr
    obtain hr | hr := hg.keeps next_converses rfl hr₀
    · obtain rfl | rfl := hτ
      · cases hr
      · exact hr
    · obtain rfl | rfl := hτ
      · cases hr
      · exact hr
  | cons x h ih =>
    have hx : k.Answers F x := hh x List.mem_cons_self
    have hgo : Run.Goes m r₀ ([x] ++ h) r := hg
    obtain ⟨r₁, hr₁, hg₁⟩ := hgo.split
    have hallow := hg.allows (h := []) next_converses rfl hr₀
    have hname : ∀ token, x.request = .nameOf token → F = F := fun _ _ => rfl
    have hr₁' := hr₁.keeps next_converses ⟨_, ⟨F, .inl rfl, hname, hx, rfl⟩, rfl⟩ hr₀
    refine ih hg₁ ?_ hr₁' (fun y hy => hh y (List.mem_cons_of_mem _ hy))
      fun y hy => hcalm y (List.mem_cons_of_mem _ hy)
    have hx' := hcalm x List.mem_cons_self
    obtain ⟨q, a⟩ := x
    cases q with
    | close via p' =>
      cases a with
      | some e' => cases hx'
      | none => obtain rfl | rfl := hτ <;> exact .inr rfl
    | handle | handled => exact hτ
    | _ => obtain rfl | rfl := hτ <;> cases hallow <;> contradiction

end

/-! ### Nothing is resolved any more -/

/-- How a call goes on, from `c` to `c'` through the history `h`, while the flag is raised for a
reason. -/
structure Call.Winds [ValueLike V] [ErrorLike E] (k : Stopper V E) (reason : V) (c : Call V E)
    (h : History V E) (c' : Call V E) : Prop where
  history : c'.history = c.history ++ h
  /-- No lookup is begun. The first request may be a lookup that was begun before. -/
  no_lookup : ∀ q ∈ (c'.run.puts h).tail, ∀ name, q ≠ .find name
  /-- No program is resumed for the first time. -/
  no_start : ∀ qs via p how qs', c'.run.puts h = qs ++ .resume via p how :: qs' → qs ≠ [] →
    fresh (c.history.map (·.request) ++ qs) = false
  /-- Whoever suspends with a payload that would be answered has the error of the stop thrown into it:
  the payload is inspected, the cancellation is asked, and the very program is resumed with that
  error. -/
  throws : ∀ h₁ via p how payload h₂, h = h₁ ++ ⟨.resume via p how, .yields payload⟩ :: h₂ →
    c'.run.Next (· = .inspect payload .payload) (fun x h₃ => ∀ traits kind,
      x = ⟨.inspect payload .payload, .ok traits⟩ → traits.kind = .ok kind → kind ≠ .completion →
      c'.run.Next (· = .due) (fun x h₄ => ∃ e, k.tells reason e ∧ x = ⟨.due, .stop (.throw e)⟩ ∧
        c'.run.Next (· = .resume via p (.throw e)) (fun _ _ => True) h₄) h₃) h₂
  /-- Whoever ends has its value delivered. -/
  delivers : ∀ h₁ via p how v h₂, h = h₁ ++ ⟨.resume via p how, .ends v⟩ :: h₂ →
    ∃ waiting next, (Run.start c.manner c.program).Goes c.manner (c.history ++ h₁)
        (.active waiting (.ask (.resume via p how) next)) ∧
      c'.run.Next (Request.reportsEnd p) (fun x h₃ => ∀ record, x = ⟨.report record, none⟩ →
        c'.run.Delivers p (via.value v) waiting h₃) h₂
  /-- Whoever yields a completion has the value in it delivered. -/
  completes : ∀ h₁ via p how payload h₂, h = h₁ ++ ⟨.resume via p how, .yields payload⟩ :: h₂ →
    ∃ waiting next, (Run.start c.manner c.program).Goes c.manner (c.history ++ h₁)
        (.active waiting (.ask (.resume via p how) next)) ∧
      c'.run.Next (· = .inspect payload .payload) (fun x h₃ => ∀ traits,
        x = ⟨.inspect payload .payload, .ok traits⟩ → traits.kind = .ok .completion →
        c'.run.Next (Request.reportsEnd p) (fun x h₄ => ∀ record, x = ⟨.report record, none⟩ →
          c'.run.Next (· = .valueOf payload) (fun x h₅ => ∀ v, x = ⟨.valueOf payload, .ok v⟩ →
            c'.run.Delivers p v waiting h₅) h₄) h₃) h₂
  /-- A call that has only begun, on a program that is accepted, never resumes it. It closes it, and
  if nothing comes out of that, the call ends with the error of the stop. -/
  bars : ∀ traits form h₁, c.history = [] →
    h = ⟨.inspect c.program .program, .ok traits⟩ :: h₁ → c.manner.accept traits = .ok form →
    (∀ q ∈ c'.run.puts h, ∀ via p how, q ≠ .resume via p how) ∧
    c'.run.Next (· = .barred) (fun x h₂ => ∃ e, k.tells reason e ∧ x = ⟨.barred, some e⟩ ∧
      c'.run.Next (fun q => ∃ via, q = .close via c.program) (fun _ _ => True) h₂ ∧
      ∀ result, c'.run = .over result → (∀ y ∈ h₂, y.calm = true) → result = .error e) h₁

section

variable [ValueLike V] [ErrorLike E] {k : Stopper V E} {F : Cancellation V} {c c' : Call V E}
  {h : History V E}

/-- A call never resumes a program for the first time while the flag is raised. -/
lemma Call.Continues.no_start (hc : c.Sound k F) (hcc : Call.Continues k F c h c')
    (hF : F.cancelled = true) {qs qs' : List (Request V E)} {via : Protocol} {p : V}
    {how : Resumption V E} (hq : c'.run.puts h = qs ++ .resume via p how :: qs') (hqs : qs ≠ []) :
    fresh (c.history.map (·.request) ++ qs) = false := by
  obtain ⟨h₁, rfl, hallow⟩ := hcc.allows hc hq hqs
  rw [hF] at hallow
  by_contra hfresh
  rw [Bool.not_eq_false, ← List.map_append] at hfresh
  have hturn : ((c.history ++ h₁).foldl Turn.next (.outside : Turn V E)).Fresh :=
    fresh_turn _ (fun h => by cases h) hfresh
  rw [hturn.turned, or_self_iff] at hallow
  exact hturn.not_resume hallow

omit [ValueLike V] [ErrorLike E] in
/-- As long as no program is resumed, what was looked at last stays fresh. -/
lemma freshens_of_not_resume {qs : List (Request V E)}
    (hqs : ∀ q ∈ qs, ∀ via p how, q ≠ .resume via p how) :
    qs.foldl (fun b q => q.freshens b) true = true := by
  induction qs with
  | nil => rfl
  | cons q qs ih =>
    have hq : q.freshens true = true := by
      cases q with
      | resume via p how => exact absurd rfl (hqs _ List.mem_cons_self via p how)
      | inspect _ role => cases role <;> rfl
      | _ => rfl
    rw [List.foldl_cons, hq]
    exact ih fun q' hq' => hqs q' (List.mem_cons_of_mem _ hq')

/-- A call that has looked at its program and not resumed it never does so. -/
lemma Call.Continues.never_resumes (hc : c.Sound k F) (hcc : Call.Continues k F c h c')
    (hF : F.cancelled = true) (hempty : c.history = []) {v : V} {a : Except E Traits}
    {h₁ : History V E} (hh : h = ⟨.inspect v .program, a⟩ :: h₁) :
    ∀ q ∈ c'.run.puts h, ∀ via p how, q ≠ .resume via p how := by
  by_contra hne
  -- The first of all its resumptions would be the first one of its program.
  have hsome : ((c'.run.puts h).find? Request.isResume).isSome = true := by
    rw [List.find?_isSome]
    push Not at hne
    obtain ⟨q, hq, via, p, how, rfl⟩ := hne
    exact ⟨_, hq, rfl⟩
  obtain ⟨q, hq⟩ := Option.isSome_iff_exists.1 hsome
  obtain ⟨hres, qs, qs', hputs, hqs⟩ := List.find?_eq_some_iff_append.1 hq
  obtain ⟨via, p, how, rfl⟩ : ∃ via p how, q = .resume via p how := by
    cases q with
    | resume via p how => exact ⟨via, p, how, rfl⟩
    | _ => cases hres
  have hnone : ∀ q' ∈ qs, ∀ via p how, q' ≠ .resume via p how := by
    rintro q' hq' via' p' how' rfl
    cases hqs _ hq'
  cases qs with
  | nil =>
    rw [hh, Run.puts, List.map_cons, List.cons_append, List.nil_append] at hputs
    cases (List.cons.inj hputs).1
  | cons q₀ qs =>
    have hfresh := hcc.no_start hc hF hputs (List.cons_ne_nil _ _)
    rw [hh, Run.puts, List.map_cons, List.cons_append, List.cons_append] at hputs
    obtain ⟨rfl, -⟩ := List.cons.inj hputs
    rw [hempty, List.map_nil, List.nil_append] at hfresh
    have := freshens_of_not_resume fun q' hq' => hnone q' (List.mem_cons_of_mem _ hq')
    exact Bool.noConfusion (this.symm.trans hfresh)

/-- Once a program is accepted, the run asks whether it may start. -/
lemma Run.Goes.accepted {v : V} {traits : Traits} {form : Form}
    (hg : (Run.start m v).Goes m (⟨.inspect v .program, .ok traits⟩ :: h) r)
    (hform : m.accept traits = .ok form) :
    ∃ next, (Run.active [] (.ask .barred next)).Goes m h r := by
  cases hg with
  | answered a hg =>
    simp only [hform] at hg
    exact ⟨_, hg⟩

/-- A call that has only begun is barred from starting. -/
lemma Call.Continues.bars (hc : c.Sound k F) (hcc : Call.Continues k F c h c')
    (hF : F.cancelled = true) (hp : c'.run.Poised) {traits : Traits} {form : Form}
    {h₁ : History V E} (hempty : c.history = [])
    (hh : h = ⟨.inspect c.program .program, .ok traits⟩ :: h₁)
    (hform : c.manner.accept traits = .ok form) :
    c'.run.Next (· = .barred) (fun x h₂ => ∃ e, k.tells F.reason e ∧ x = ⟨.barred, some e⟩ ∧
      c'.run.Next (fun q => ∃ via, q = .close via c.program) (fun _ _ => True) h₂ ∧
      ∀ result, c'.run = .over result → (∀ y ∈ h₂, y.calm = true) → result = .error e) h₁ := by
  have hgoes := hc.goes.append hcc.goes
  rw [hempty, hh, List.nil_append] at hgoes
  obtain ⟨next, hgo⟩ := hgoes.accepted hform
  cases h₁ with
  | nil =>
    have hrun := hgo.of_asks rfl
    exact .puts (by rw [hrun]; rfl) rfl
  | cons y h₂ =>
    obtain ⟨q, a⟩ := y
    obtain rfl : q = .barred := by
      cases hgo with
      | answered a hgo => rfl
    -- The answer says why the run was stopped, and from there on it is being barred.
    have hy : k.Answers F ⟨.barred, a⟩ := hcc.right _ (by rw [hh]; simp)
    obtain ⟨e, he, rfl⟩ := (answers_barred_of_raised hF).1 hy
    have hcc' : Call.Continues k F c
        ([⟨.inspect c.program .program, .ok traits⟩] ++ ⟨.barred, some e⟩ :: h₂) c' := by
      rw [hh] at hcc
      exact hcc
    obtain ⟨waiting, next'', -, hs⟩ := hcc'.speaks hc
    rw [hempty] at hs
    have hs' : Run.Speaks k c.manner F (.barring c.program e) waiting h₂ c'.run := hs
    refine .answered rfl ⟨e, he, rfl, hs'.closes hp, fun result hresult hcalm => ?_⟩
    obtain ⟨t, ht, hg, hanswers⟩ := hs'
    exact hg.excluded (.inl rfl) (.inl ht) hanswers hcalm hresult

/-- How a call goes on while the flag is raised. -/
lemma Call.Continues.winds (hc : c.Sound k F) (hcc : Call.Continues k F c h c')
    (hF : F.cancelled = true) (hp : c'.run.Poised) : Call.Winds k F.reason c h c' where
  history := hcc.history
  no_lookup q hq name := by
    rintro rfl
    obtain ⟨qs, qs', hputs⟩ := List.append_of_mem hq
    cases hl : c'.run.puts h with
    | nil => rw [hl] at hq; cases hq
    | cons q₀ l =>
      rw [hl, List.tail_cons] at hputs
      rw [hputs] at hl
      have hputs' : c'.run.puts h = (q₀ :: qs) ++ .find name :: qs' := hl
      obtain ⟨h₁, -, hallow⟩ := hcc.allows hc hputs' (List.cons_ne_nil _ _)
      rw [hF] at hallow
      exact hallow.elim (Turn.not_find _ name) (Turn.not_find _ name)
  no_start qs via p how qs' hq hqs := hcc.no_start hc hF hq hqs
  throws h₁ via p how payload h₂ hh := by
    subst hh
    obtain ⟨waiting, next, -, hs⟩ := hcc.speaks hc
    refine Run.Speaks.inspects hs hp fun a h₃ hs' => ?_
    rintro traits kind ⟨⟩ hkind hne
    have hasked : (Turn.suspended via p payload : Turn V E).inspected (.ok traits) = .asked via p := by
      simp only [Turn.inspected, hkind]
    rw [hasked] at hs'
    exact hs'.throws hp hF
  delivers h₁ via p how v h₂ hh := by
    subst hh
    obtain ⟨waiting, next, hat, hs⟩ := hcc.speaks hc
    exact ⟨waiting, next, hat, Run.Speaks.hands hs hp⟩
  completes h₁ via p how payload h₂ hh := by
    subst hh
    obtain ⟨waiting, next, hat, hs⟩ := hcc.speaks hc
    refine ⟨waiting, next, hat, Run.Speaks.inspects hs hp fun a h₃ hs' => ?_⟩
    rintro traits ⟨⟩ hkind
    have hcompleting : (Turn.suspended via p payload : Turn V E).inspected (.ok traits) =
        .completing p payload := by simp only [Turn.inspected, hkind]
    rw [hcompleting] at hs'
    exact hs'.completes hp
  bars traits form h₁ hempty hh hform :=
    ⟨hcc.never_resumes hc hF hempty hh, hcc.bars hc hF hp hempty hh hform⟩

/-- Any number of runs of both drivers share one cancellation, and steps come in any order. From the
first request to stop on, the flag says that reason and later requests are not put into the log; and
every call that there is by then, or that is begun after that, winds down. -/
theorem nothing_resolved_after_cancellation {p₀ p p₁ p₂ : Pool V E} {reason : V}
    (hempty : p₀.calls = []) (h₀ : Pool.Reaches k p₀ p) (hflag : p.flag.cancelled = false)
    (hparked : ∀ c ∈ p.calls, c.run.Parked) (h₁ : Pool.Reaches k (p.request reason) p₁)
    (h₂ : Pool.Reaches k p₁ p₂) :
    p₂.flag = ⟨true, reason⟩ ∧ p₂.records = p.records ++ [reason] ∧
    ∀ (i : ℕ) (c : Call V E), p₁.calls[i]? = some c →
      ∃ h c', p₂.calls[i]? = some c' ∧ Call.Winds k reason c h c' := by
  have hrequest : p.request reason = ⟨⟨true, reason⟩, p.records ++ [reason], p.calls⟩ := by
    simp [Pool.request, Cancellation.cancel, Cancellation.announced, hflag]
  have hall₁ : Pool.Reaches k p₀ p₁ := (h₀.tail (.requests reason hparked)).trans h₁
  have hsound₁ := hall₁.sound hempty
  have hall₂ : Pool.Reaches k p₀ p₂ := hall₁.trans h₂
  have hsound₂ := hall₂.sound hempty
  rw [hrequest] at h₁
  obtain ⟨hflag₁, hrecords₁, -⟩ := h₁.continues rfl
  have hraised : p₁.flag.cancelled = true := by rw [hflag₁]
  obtain ⟨hflag₂, hrecords₂, hcalls⟩ := h₂.continues hraised
  refine ⟨hflag₂.trans hflag₁, hrecords₂.trans hrecords₁, fun i c hi => ?_⟩
  obtain ⟨h, c', hi', hcc⟩ := hcalls i c hi
  have hwinds := hcc.winds (hsound₁ c (List.mem_of_getElem? hi)) hraised
    (hsound₂ c' (List.mem_of_getElem? hi')).poised
  rw [hflag₁] at hwinds
  exact ⟨h, c', hi', hwinds⟩

end

/-! ### A program that swallows the error of a stop -/

section

open Script

/-- One error says of every stop that it was requested. -/
def stopError : Stopper Value Fault where
  tells _ e := e = .raised .ordinary 1
  ordinary h := by rw [h]; rfl

/-- A program suspends with a value, has the error of a stop thrown into it, and ends all the same. -/
def swallowed (p payload v : Value) : History Value Fault :=
  [⟨.resume .sync p (.send .none), .yields payload⟩, ⟨.inspect payload .payload, .ok plain⟩,
    ⟨.due, .stop (.throw (.raised .ordinary 1))⟩,
    ⟨.resume .sync p (.throw (.raised .ordinary 1)), .ends v⟩,
    ⟨.report (.finished .blocking p (.direct .sync)), none⟩, ⟨.close .sync p, none⟩]

/-- A call that is about to resume its program for the first time. -/
def atStart (p : Value) : Call Value Fault :=
  ⟨.blocking, p, takenUp p, .active [] (cycle .blocking ⟨p, .inl .sync⟩ (.send .none))⟩

/-- The call of `atStart` after its program has swallowed the error. -/
def afterStop (p payload v : Value) : Call Value Fault :=
  ⟨.blocking, p, takenUp p ++ swallowed p payload v, .over (.ok v)⟩

lemma swallowed_goes (p payload v : Value) :
    (atStart p).run.Goes .blocking (swallowed p payload v) (.over (.ok v)) := by
  have hthrow : (cycle .blocking ⟨p, .inl .sync⟩ (.send .none) : Talk Value Fault _).Comes
      [⟨.resume .sync p (.send .none), .yields payload⟩, ⟨.inspect payload .payload, .ok plain⟩,
        ⟨.due, .stop (.throw (.raised .ordinary 1))⟩]
      (.again ⟨p, .inl .sync⟩ (.throw (.raised .ordinary 1))) :=
    ⟨_, _, rfl, _, _, rfl, _, _, rfl, rfl, rfl⟩
  have hend : (cycle .blocking ⟨p, .inl .sync⟩ (.throw (.raised .ordinary 1)) :
      Talk Value Fault _).Comes
      [⟨.resume .sync p (.throw (.raised .ordinary 1)), .ends v⟩,
        ⟨.report (.finished .blocking p (.direct .sync)), none⟩, ⟨.close .sync p, none⟩]
      (.leave (.ok v)) :=
    ⟨_, _, rfl, _, _, rfl, _, _, rfl, rfl, rfl⟩
  exact .of_comes hthrow (.of_comes hend (.here _))

/-- A stop is requested when a program is about to start: the payload that it suspends with is not
passed to it, and the value that it comes to after all is delivered. -/
theorem swallowed_stop_resolves_nothing :
    ∃ h, Call.Winds stopError (.text "stop") (atStart (.object 0)) h
      (afterStop (.object 0) (.object 1) (.int 2)) := by
  have hbegins : Pool.Step stopError ⟨⟨false, .none⟩, [], []⟩
      ⟨⟨false, .none⟩, [], [.begun .blocking (.object 0)]⟩ :=
    Pool.Step.begins .blocking (Value.object 0) (by simp)
  have hstarts : Pool.Reaches stopError ⟨⟨false, .none⟩, [], [.begun .blocking (.object 0)]⟩
      ⟨⟨false, .none⟩, [], [atStart (.object 0)]⟩ := by
    refine Pool.reaches_alone (h := takenUp (.object 0)) ?_ (.inl ⟨_, rfl⟩) (.inl ⟨_, rfl⟩) ?_
    · exact .of_comes (takenUp_comes (.object 0)) (.here _)
    · simp [takenUp, Stopper.Answers, Cancellation.due]
  have hends : Pool.Reaches stopError ⟨⟨true, .text "stop"⟩, [.text "stop"], [atStart (.object 0)]⟩
      ⟨⟨true, .text "stop"⟩, [.text "stop"], [afterStop (.object 0) (.object 1) (.int 2)]⟩ := by
    refine Pool.reaches_alone (swallowed_goes (.object 0) (.object 1) (.int 2)) (.inr ⟨_, rfl⟩)
      (.inl ⟨_, rfl⟩) ?_
    simp [swallowed, Stopper.Answers, stopError, Cancellation.due]
  have hparked : ∀ c ∈ [atStart (.object 0)], c.run.Parked := by
    rintro c hc token htoken
    obtain rfl := List.mem_singleton.1 hc
    cases htoken
  obtain ⟨-, -, hcalls⟩ := nothing_resolved_after_cancellation rfl
    (Relation.ReflTransGen.head hbegins hstarts) rfl hparked .refl hends
  obtain ⟨h, c', hc', hwinds⟩ := hcalls 0 _ rfl
  obtain rfl := Option.some.inj hc'
  exact ⟨h, hwinds⟩

end

end Provision
