import Provision.Proofs.Failure

/-!
Short circuits: after its first failure a run only leaves.

`failure_short_circuits` is about every run of either driver, with answers of any kind: whatever
fails first, no name is looked up afterwards and no program is resumed. What is left to do is to
close, innermost first, the program that was being driven and those that wait for it, and the run
ends with an error, with any host and whatever comes out of closing.

`nested_failure_short_circuits` is the case of a nested program that fails and then does not let
itself be closed.
-/

namespace Provision

variable {V E : Type} [ValueLike V] [ErrorLike E]

/-- **Failure short-circuits.** Let `x` be the first exchange of a run that fails. From there on

* nothing is asked but what leaving takes: no name is looked up, no program is resumed;
* the programs that are closed are the one that was being driven and then those of the waiting
  levels, innermost first, each of them until all have been closed once the run is over;
* a result, if there is one, is an error, and with any host there is one. -/
theorem failure_short_circuits [LawfulErrorLike E] {m : Manner} {q : V}
    {before after : History V E} {x : Exchange V E} {run : Run V E}
    (hg : (Run.start m q).Goes m (before ++ x :: after) run)
    (hb : ∀ y ∈ before, y.fails m = false) (hx : x.fails m = true) :
    (∀ y ∈ after, y.request.Leaves ∧ (∀ name, y.request ≠ .find name) ∧
      ∀ via p how, y.request ≠ .resume via p how) ∧
    (∃ waiting next later,
      (Run.start m q).Goes m before (.active waiting (.ask x.request next)) ∧
      ClosedInTurn (x.abandons before.driven ++ waiting.map (·.program))
        (History.closings (x :: after) ++ later) ∧
      ((∃ result, run = .over result) → later = [])) ∧
    (∀ result, run = .over result → ∃ e, result = .error e) ∧
    ∀ (σ : Type) (host : Host V E σ) (s : σ),
      ∃ fuel e, (run.conduct m host fuel s).1 = some (.error e) := by
  obtain ⟨waiting, next, error, hat, hleaves, -, hkeeps⟩ := hg.after_failure hb hx
  refine ⟨fun y hy => ⟨hleaves y hy, (hleaves y hy).ne_find, (hleaves y hy).ne_resume⟩, ?_, ?_, ?_⟩
  · obtain ⟨later, hclosed, hover⟩ := Run.unwinds_in_turn hkeeps
    exact ⟨waiting, next, later, hat, hclosed, hover⟩
  · rintro result rfl
    obtain ⟨own, closed, error', e, -, rfl, -⟩ := hkeeps
    exact ⟨e, rfl⟩
  · intro σ host s
    exact Run.conduct_unwinds host hkeeps s

/-! ### A nested program that fails -/

section

open Script

/-- What a synchronous program shows. -/
def synchronous : Traits := ⟨false, false, true, false, false, false⟩

/-- What a value shows that is nothing special. -/
def plain : Traits := ⟨false, false, false, false, false, false⟩

/-- A program is taken up and accepted. -/
def takenUp (p : Value) : History Value Fault :=
  [⟨.inspect p .program, .ok synchronous⟩, ⟨.barred, none⟩]

lemma takenUp_comes (p : Value) : (takeUp .blocking p).Comes (takenUp p)
    (.again ⟨p, .inl .sync⟩ (.send .none) : Verdict Value Fault) :=
  ⟨_, _, rfl, _, _, rfl, rfl, rfl⟩

/-- A program has yielded a nested one, and that was taken up. -/
def nestedBegun (outer inner : Value) : History Value Fault :=
  takenUp outer ++
    [⟨.resume .sync outer (.send .none), .yields inner⟩, ⟨.inspect inner .payload, .ok synchronous⟩,
      ⟨.due, .goOn⟩, ⟨.report (.nested .blocking inner), none⟩] ++ takenUp inner

/-- A program is closed and its level is left with an error. -/
def abandoned (p : Value) (e : Fault) (raised : Option Fault) : History Value Fault :=
  [⟨.handle e, ()⟩, ⟨.close .sync p, raised⟩, ⟨.handled, ()⟩]

/-- The run in which a nested program fails and then fails again while it is closed. -/
lemma nested_goes (outer inner : Value) (e e' : Fault) :
    (Run.start .blocking outer).Goes .blocking (nestedBegun outer inner ++
      ⟨.resume .sync inner (.send .none), .raises e⟩ ::
        (abandoned inner e (some e') ++ abandoned outer e' none)) (.over (.error e')) := by
  have hyield : (cycle .blocking ⟨outer, .inl .sync⟩ (.send .none) : Talk Value Fault _).Comes
      [⟨.resume .sync outer (.send .none), .yields inner⟩,
        ⟨.inspect inner .payload, .ok synchronous⟩, ⟨.due, .goOn⟩,
        ⟨.report (.nested .blocking inner), none⟩] (.enter ⟨outer, .inl .sync⟩ inner) :=
    ⟨_, _, rfl, _, _, rfl, _, _, rfl, _, _, rfl, rfl, rfl⟩
  have hfail : (cycle .blocking ⟨inner, .inl .sync⟩ (.send .none)).Comes
      (⟨.resume .sync inner (.send .none), .raises e⟩ :: abandoned inner e (some e'))
      (.leave (.error e')) :=
    ⟨_, _, rfl, _, _, rfl, _, _, rfl, _, _, rfl, rfl, rfl⟩
  have hleave : (proceed .blocking ⟨outer, .inl .sync⟩ (.error e') : Talk Value Fault _).Comes
      (abandoned outer e' none) (.leave (.error e')) :=
    ⟨_, _, rfl, _, _, rfl, _, _, rfl, rfl, rfl⟩
  have hend : (Run.active [] (proceed .blocking ⟨outer, .inl .sync⟩ (.error e'))).Goes .blocking
      (abandoned outer e' none ++ []) (.over (.error e')) := .of_comes hleave (.here _)
  rw [List.append_nil] at hend
  have hall : (Run.active [] (takeUp .blocking outer)).Goes .blocking _ (.over (.error e')) :=
    .of_comes (takenUp_comes outer) <| .of_comes hyield <| .of_comes (takenUp_comes inner) <|
      .of_comes hfail hend
  rw [nestedBegun, List.append_assoc, List.append_assoc]
  exact hall

/-- The case of `nested_goes`: nothing is looked up or resumed after the nested program has failed,
the inner program is closed before the outer one, and the run ends with an error. -/
theorem nested_failure_short_circuits :
    (∀ y ∈ abandoned (.object 1) (.raised .ordinary 2) (some (.raised .ordinary 3)) ++
        abandoned (.object 0) (.raised .ordinary 3) none, y.request.Leaves) ∧
      (∃ waiting : List (Level Value), ClosedInTurn (.object 1 :: waiting.map (·.program))
        [.object 1, .object 0]) ∧
      ∃ e : Fault, (.error (.raised .ordinary 3) : Except Fault Value) = .error e := by
  obtain ⟨hleaves, ⟨waiting, next, later, hat, hclosed, hlater⟩, hresult, -⟩ :=
    failure_short_circuits
      (nested_goes (.object 0) (.object 1) (.raised .ordinary 2) (.raised .ordinary 3))
      (by decide) (by decide)
  refine ⟨fun y hy => (hleaves y hy).1, ⟨waiting, ?_⟩, hresult _ rfl⟩
  obtain rfl := hlater ⟨_, rfl⟩
  exact hclosed

end

end Provision
