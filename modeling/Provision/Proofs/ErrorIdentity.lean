import Provision.Proofs.ShortCircuit

/-!
The identity of errors: which error a run ends with.

An error that escapes from a program, or that a lookup fails with, makes its way out through every
waiting level. `Exchange.passes` says which errors get through as they are: driving in one go, all
of them; driving cooperatively, all but the end signals, which are stopped where a lifted program or
a level of its own is left.

* `escaped_error_comes_out`: if nothing comes out of closing, the run ends with the escaped error,
  or with the one that takes its place, and it ends with the very error exactly if that passes;
* `async_end_signal_is_replaced`: a synchronous program that lets the end signal of asynchronous
  programs escape, driven cooperatively, fails with another error.
-/

namespace Provision

variable {V E : Type} [ErrorLike E]

/-! ### Errors on their way out -/

/-- The error that escapes in an exchange: from a program that was resumed, or from the
environment. -/
def Exchange.escaping : Exchange V E → Option E
  | ⟨.resume .., .raises e⟩ => some e
  | ⟨.find _, .failed e⟩ => some e
  | _ => none

/-- Whether the error that escapes in an exchange gets out of a run as it is. -/
def Exchange.passes (m : Manner) : Exchange V E → Bool
  | ⟨.resume via _ _, .raises e⟩ =>
    m = .blocking || ErrorLike.nature e ≠ .ended && (via = .async || ErrorLike.nature e ≠ .asyncEnded)
  | ⟨.find _, .failed e⟩ => m = .blocking || ErrorLike.nature e ≠ .ended
  | _ => true

/-- What takes the place of an error that is stopped is not that error. -/
lemma Boundary.cross_eq_iff [LawfulErrorLike E] (b : Boundary) (e : E) :
    b.cross e = e ↔ b.stops (ErrorLike.nature e) = false := by
  unfold Boundary.cross
  cases hs : b.stops (ErrorLike.nature e) with
  | false => simp
  | true =>
    have hn := LawfulErrorLike.nature_stopped b e hs
    constructor
    · intro he
      rw [if_pos rfl] at he
      rw [he] at hn
      rw [hn] at hs
      cases b <;> cases hs
    · intro h
      cases h

lemma Manner.cross_eq_iff [LawfulErrorLike E] (m : Manner) (e : E) :
    m.cross e = e ↔ (m = .blocking ∨ ErrorLike.nature e ≠ .ended) := by
  cases m with
  | blocking => simp [Manner.cross]
  | cooperative =>
    rw [Manner.cross, Boundary.cross_eq_iff]
    cases ErrorLike.nature e <;> simp [Boundary.stops]

/-- A lifted program lets out nothing that would be stopped further out. -/
lemma coroutine_cross_lifting_cross [LawfulErrorLike E] (e : E) :
    Boundary.coroutine.cross (Boundary.lifting.cross e) = Boundary.lifting.cross e := by
  rw [Boundary.cross_eq_iff, Boundary.cross]
  split
  · next hs =>
    rw [LawfulErrorLike.nature_stopped _ _ hs]
    rfl
  · next hs =>
    cases hn : ErrorLike.nature e with
    | ended | asyncEnded => exact absurd (by rw [hn]; rfl) hs
    | _ => rfl

/-- An error that escapes is the outcome of its level exactly if it passes. -/
lemma Exchange.outcome_of_escaping [LawfulErrorLike E] {m : Manner} {x : Exchange V E} {e : E}
    (he : x.escaping = some e) :
    ∃ e', x.outcome m = some e' ∧ (e' = e ↔ x.passes m = true) := by
  obtain ⟨q, a⟩ := x
  cases q with
  | find name =>
    cases a with
    | found | absent => cases he
    | failed e₁ =>
      cases he
      refine ⟨m.cross e, rfl, ?_⟩
      rw [m.cross_eq_iff]
      simp [Exchange.passes]
  | resume via p how =>
    cases a with
    | yields | ends => cases he
    | raises e₁ =>
      cases he
      refine ⟨m.cross (m.carry via e), rfl, ?_⟩
      cases m with
      | blocking => simp [Manner.cross, Manner.carry, Exchange.passes]
      | cooperative =>
        cases via with
        | async =>
          rw [show Manner.cooperative.carry .async e = e from rfl, Manner.cross_eq_iff]
          simp [Exchange.passes]
        | sync =>
          rw [show Manner.cooperative.cross (Manner.cooperative.carry .sync e) =
            Boundary.lifting.cross e from coroutine_cross_lifting_cross e, Boundary.cross_eq_iff]
          cases hn : ErrorLike.nature e <;> simp [Exchange.passes, Boundary.stops, hn]
  | _ => cases he

/-- What an error escapes in is a failure. -/
lemma Exchange.fails_of_escaping {m : Manner} {x : Exchange V E} {e : E}
    (he : x.escaping = some e) : x.fails m = true := by
  obtain ⟨q, a⟩ := x
  cases q with
  | find name => cases a <;> first | rfl | cases he
  | resume via p how => cases a <;> first | rfl | cases he
  | _ => cases he

omit [ErrorLike E] in
/-- After a failure no error escapes any more. -/
lemma Exchange.not_leaves_of_escaping {x : Exchange V E} {e : E} (he : x.escaping = some e) :
    ¬ x.request.Leaves := by
  obtain ⟨q, a⟩ := x
  cases q <;> first | exact id | cases he

/-! ### The error of a run -/

section

variable [ValueLike V] [LawfulErrorLike E] {m : Manner} {q : V} {before after : History V E}
  {x : Exchange V E} {e : E}

/-- Nothing has failed before an error escapes. -/
lemma Run.Goes.sound_before_escape {run : Run V E}
    (hg : (Run.start m q).Goes m (before ++ x :: after) run) (he : x.escaping = some e) :
    ∀ y ∈ before, y.fails m = false := by
  cases hf : before.find? (·.fails m) with
  | none => simpa using List.find?_eq_none.1 hf
  | some y =>
    obtain ⟨hy, b₁, b₂, rfl, hb₁⟩ := List.find?_eq_some_iff_append.1 hf
    rw [List.append_assoc, List.cons_append] at hg
    obtain ⟨-, -, -, -, hleaves, -⟩ := hg.after_failure (fun z hz => by simpa using hb₁ z hz) hy
    exact absurd (hleaves x (by simp)) (x.not_leaves_of_escaping he)

/-- The outcome of the level in which an error escapes is the outcome of the run. -/
lemma Run.Goes.result_of_escape {result : Except E V} {e' : E}
    (hg : (Run.start m q).Goes m (before ++ x :: after) (.over result)) (he : x.escaping = some e)
    (hcalm : ∀ y ∈ after, y.calm = true) (he' : x.outcome m = some e') : result = .error e' := by
  obtain ⟨waiting, next, error, -, -, herror, hkeeps⟩ :=
    hg.after_failure (hg.sound_before_escape he) (x.fails_of_escaping he)
  obtain ⟨own, closed, error', e₁, hstate, rfl, -, he₁⟩ := hkeeps
  cases hstate
  rw [herror hcalm] at he₁
  rw [he₁ e' he']

/-- **Errors keep their identity.** Let an error `e` escape in a run: from a program that was
resumed, or from the environment as something else than absence. Then the run ends, with any host,
and always with an error. If nothing comes out of the programs that are closed meanwhile, that is one
error, whatever else happens, and it is `e` itself exactly if `e` passes. -/
theorem escaped_error_comes_out {run : Run V E}
    (hg : (Run.start m q).Goes m (before ++ x :: after) run) (he : x.escaping = some e)
    (hcalm : ∀ y ∈ after, y.calm = true) :
    ∃ e', (e' = e ↔ x.passes m = true) ∧
      (∀ result, run = .over result → result = .error e') ∧
      ∀ (σ : Type) (host : Host V E σ) (s : σ), ∃ fuel e₁ s' more,
        run.conduct m host.recorded fuel (s, []) = (some (.error e₁), s', more) ∧
        ((∀ y ∈ more, y.calm = true) → e₁ = e') := by
  obtain ⟨e', he', hiff⟩ := x.outcome_of_escaping (m := m) he
  refine ⟨e', hiff, ?_, ?_⟩
  · rintro result rfl
    exact hg.result_of_escape he hcalm he'
  · intro σ host s
    obtain ⟨waiting, next, error₀, -, -, -, hkeeps⟩ :=
      hg.after_failure (hg.sound_before_escape he) (x.fails_of_escaping he)
    obtain ⟨more, s', e₁, hs, hover, -⟩ := Run.unwinds_with host hkeeps s
    obtain ⟨fuel, hfuel⟩ := Run.conduct_of_goes hover (hs.recorded [])
    refine ⟨fuel, e₁, s', more, hfuel, fun hmore => ?_⟩
    have hall := hg.append hover
    rw [List.append_assoc, List.cons_append] at hall
    have hall' : ∀ y ∈ after ++ more, y.calm = true := fun y hy =>
      (List.mem_append.1 hy).elim (hcalm y) (hmore y)
    have := hall.result_of_escape he hall' he'
    exact Except.error.inj this

end

/-! ### An end signal that escapes -/

section

open Script

/-- A synchronous program is taken up cooperatively, lets an error escape and is closed without
complaint. -/
def liftedEscape (p : Value) (e out : Fault) : History Value Fault :=
  [⟨.inspect p .program, .ok synchronous⟩, ⟨.barred, none⟩] ++
    ⟨.resume .sync p (.send .none), .raises e⟩ ::
      [⟨.handle out, ()⟩, ⟨.close .sync p, none⟩, ⟨.handled, ()⟩]

/-- The run of a lifted program that lets an error escape. -/
lemma liftedEscape_goes (p : Value) (e : Fault) :
    (Run.start .cooperative p).Goes .cooperative (liftedEscape p e (Boundary.lifting.cross e))
      (.over (.error (Boundary.lifting.cross e))) := by
  have htake : (takeUp .cooperative p : Talk Value Fault _).Comes
      [⟨.inspect p .program, .ok synchronous⟩, ⟨.barred, none⟩]
      (.again ⟨p, .inr .unstarted⟩ (.send .none)) :=
    ⟨_, _, rfl, _, _, rfl, rfl, rfl⟩
  have hcycle : (cycle .cooperative ⟨p, .inr .unstarted⟩ (.send .none) : Talk Value Fault _).Comes
      [⟨.resume .sync p (.send .none), .raises e⟩, ⟨.handle (Boundary.lifting.cross e), ()⟩,
        ⟨.close .sync p, none⟩, ⟨.handled, ()⟩]
      (.leave (.error (Boundary.lifting.cross e))) := by
    refine ⟨_, _, rfl, _, _, rfl, _, _, rfl, _, _, rfl, rfl, ?_⟩
    show Verdict.leave _ = Verdict.leave (.error (Boundary.coroutine.cross _))
    rw [coroutine_cross_lifting_cross]
  have hall : (Run.active [] (takeUp .cooperative p)).Goes .cooperative _
      (.over (.error (Boundary.lifting.cross e))) := .of_comes htake (.of_comes hcycle (.here _))
  rw [List.append_nil] at hall
  exact hall

/-- A synchronous program lets the end signal of asynchronous programs escape, and nothing comes out
of closing it. Driven cooperatively, its run does not end with that error. -/
theorem async_end_signal_is_replaced :
    ∃ (h : History Value Fault) (x : Exchange Value Fault) (e : Fault) (result : Except Fault Value),
      (Run.start .cooperative (.object 0)).Goes .cooperative h (.over result) ∧ x ∈ h ∧
      x.escaping = some e ∧ (∀ y ∈ h, y.calm = true) ∧ result ≠ .error e := by
  refine ⟨_, ⟨.resume .sync (.object 0) (.send .none), .raises (.raised .asyncEnded 1)⟩,
    .raised .asyncEnded 1, _, liftedEscape_goes (.object 0) (.raised .asyncEnded 1), ?_, rfl, ?_, ?_⟩
  · exact List.mem_append_right _ List.mem_cons_self
  · decide
  · intro h
    cases h

/-- The run of `liftedEscape_goes` with an ordinary error: it passes, so nothing else can come
out. -/
theorem ordinary_error_comes_out :
    (Run.start .cooperative (.object 0)).Goes .cooperative
      (liftedEscape (.object 0) (.raised .ordinary 1) (.raised .ordinary 1))
      (.over (.error (.raised .ordinary 1))) ∧
    ∀ result, (Run.start .cooperative (.object 0)).Goes .cooperative
        (liftedEscape (.object 0) (.raised .ordinary 1) (.raised .ordinary 1)) (.over result) →
      result = .error (.raised .ordinary 1) := by
  refine ⟨liftedEscape_goes (.object 0) (.raised .ordinary 1), fun result hg => ?_⟩
  obtain ⟨e', hiff, hresult, -⟩ := escaped_error_comes_out hg rfl (by decide)
  rw [hresult result rfl, hiff.2 rfl]

end

end Provision
