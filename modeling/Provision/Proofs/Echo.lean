import Provision.Proofs.Failure

/-!
Echoes: the history of a blocking run as a cooperative one goes through it.

Driving cooperatively, a synchronous program is reached through its lifting. An error that is thrown
into it is being handled meanwhile, so is the signal to close while it is closed, and a program that
was closed in this way is closed once more. `Echo` relates two histories that differ in nothing else
but this, and in who drives and in which form in the records.

* `Echo.unique`: a run goes through one echo of a history at most;
* `Echo.lookups`, `Echo.operations` and `Echo.records`: in both histories the same names are looked
  up, the same is done to every program, except for closing it again after it was closed, and the
  same is put into the log;
* `Echo.answers`: a host that takes no notice of these differences (`Host.Impartial`) answers an
  echo if it answers the history.
-/

namespace Provision

variable {V E : Type}

/-! ### Histories that differ in the lifting only -/

/-- Records that say the same, whoever drives and in which form. -/
inductive Report.Alike : Report V → Report V → Prop
  | finished (m m' : Manner) (p : V) (form form' : Form) :
    Alike (.finished m p form) (.finished m' p form')
  | nested (m m' : Manner) (p : V) : Alike (.nested m p) (.nested m' p)
  | same (r : Report V) : Alike r r

/-- The second history is the first one with a lifting around every program. -/
inductive Echo [ErrorLike E] : History V E → History V E → Prop
  | nil : Echo [] []
  | same (x : Exchange V E) {h h' : History V E} : Echo h h' → Echo (x :: h) (x :: h')
  | reports {r r' : Report V} (a : Option E) {h h' : History V E} : r.Alike r' → Echo h h' →
    Echo (⟨.report r, a⟩ :: h) (⟨.report r', a⟩ :: h')
  | throws {p : V} {e : E} (a : Signal V E) {h h' : History V E} :
    ErrorLike.nature e = .ordinary → Echo h h' →
    Echo (⟨.resume .sync p (.throw e), a⟩ :: h)
      (⟨.handle e, ()⟩ :: ⟨.resume .sync p (.throw e), a⟩ :: ⟨.handled, ()⟩ :: h')
  /-- The lifting was closed, and the program is closed once more. -/
  | closes {p : V} {h h' : History V E} : Echo h h' →
    Echo (⟨.close .sync p, none⟩ :: h)
      (⟨.handle ErrorLike.exit, ()⟩ :: ⟨.close .sync p, none⟩ :: ⟨.handled, ()⟩ ::
        ⟨.close .sync p, none⟩ :: h')
  | fails {p : V} (e : E) {h h' : History V E} : Echo h h' →
    Echo (⟨.close .sync p, some e⟩ :: h)
      (⟨.handle ErrorLike.exit, ()⟩ :: ⟨.close .sync p, some e⟩ :: ⟨.handled, ()⟩ :: h')

namespace Echo

variable [ErrorLike E] {h h' k k' : History V E}

lemma append (he : Echo h h') (hk : Echo k k') : Echo (h ++ k) (h' ++ k') := by
  induction he with
  | nil => exact hk
  | same x _ ih => exact .same x ih
  | reports a hr _ ih => exact .reports a hr ih
  | throws a hn _ ih => exact .throws a hn ih
  | closes _ ih => exact .closes ih
  | fails e _ ih => exact .fails e ih

/-- A run goes through one echo of a history at most. -/
lemma unique [ValueLike V] {m : Manner} {r r₁ r₂ : Run V E} (he : Echo h k) (he' : Echo h k')
    (hg : r.Goes m k r₁) (hg' : r.Goes m k' r₂) : k' = k := by
  -- Which of the two forms an exchange has in the echo is seen from what the run asks first.
  induction he generalizing r k' with
  | nil =>
    cases he'
    rfl
  | same x _ ih =>
    cases he' with
    | same _ he' =>
      obtain ⟨r₀, h₁, h₂⟩ := Run.Goes.after_common [_] hg hg'
      rw [ih he' h₁ h₂]
    | reports a hr he' =>
      cases (hg.diverge hg').1
      obtain ⟨r₀, h₁, h₂⟩ := Run.Goes.after_common [_] hg hg'
      rw [ih he' h₁ h₂]
    | throws | closes | fails => cases (hg.diverge hg').1
  | reports a hr _ ih =>
    cases he' with
    | same _ he' =>
      cases (hg.diverge hg').1
      obtain ⟨r₀, h₁, h₂⟩ := Run.Goes.after_common [_] hg hg'
      rw [ih he' h₁ h₂]
    | reports _ hr' he' =>
      cases (hg.diverge hg').1
      obtain ⟨r₀, h₁, h₂⟩ := Run.Goes.after_common [_] hg hg'
      rw [ih he' h₁ h₂]
  | throws a _ _ ih =>
    cases he' with
    | same _ he' => cases (hg.diverge hg').1
    | throws _ _ he' =>
      obtain ⟨r₀, h₁, h₂⟩ := Run.Goes.after_common [_, _, _] hg hg'
      rw [ih he' h₁ h₂]
  | closes _ ih =>
    cases he' with
    | same _ he' => cases (hg.diverge hg').1
    | closes he' =>
      obtain ⟨r₀, h₁, h₂⟩ := Run.Goes.after_common [_, _, _, _] hg hg'
      rw [ih he' h₁ h₂]
  | fails e _ ih =>
    cases he' with
    | same _ he' => cases (hg.diverge hg').1
    | fails _ he' =>
      obtain ⟨r₀, h₁, h₂⟩ := Run.Goes.after_common [_, _, _] hg hg'
      rw [ih he' h₁ h₂]

end Echo

/-! ### What is the same in both histories -/

/-- The names that are looked up, in order. -/
def History.lookups (h : History V E) : List V :=
  h.filterMap fun x => match x.request with
    | .find name => some name
    | _ => none

/-- The records that are put into the log, in order. -/
def History.records (h : History V E) : List (Report V) :=
  h.filterMap fun x => match x.request with
    | .report r => some r
    | _ => none

/-- What is done to a program, in order: it is resumed in some way, or it is closed. Closing it again
after it was closed without an error does not count. -/
def History.operations [DecidableEq V] (p : V) (closed : Bool) :
    History V E → List (Option (Resumption V E))
  | [] => []
  | ⟨.resume _ q how, _⟩ :: h =>
    if q = p then some how :: operations p false h else operations p closed h
  | ⟨.close _ q, a⟩ :: h =>
    if q = p then (if closed then [] else [none]) ++ operations p a.isNone h
    else operations p closed h
  | _ :: h => operations p closed h

namespace Echo

variable [ErrorLike E] {h h' : History V E}

lemma lookups (he : Echo h h') : History.lookups h' = History.lookups h := by
  induction he with
  | nil => rfl
  | same x _ ih =>
    unfold History.lookups at ih ⊢
    rw [List.filterMap_cons, List.filterMap_cons, ih]
  | reports | throws | closes | fails => assumption

lemma records (he : Echo h h') :
    List.Forall₂ Report.Alike (History.records h) (History.records h') := by
  induction he with
  | nil => exact .nil
  | same x _ ih =>
    obtain ⟨q, a⟩ := x
    cases q with
    | report r => exact .cons (.same r) ih
    | _ => exact ih
  | reports a hr _ ih => exact .cons hr ih
  | throws | closes | fails => assumption

lemma operations [DecidableEq V] (he : Echo h h') (p : V) (closed : Bool) :
    History.operations p closed h' = History.operations p closed h := by
  induction he generalizing closed with
  | nil => rfl
  | same x _ ih =>
    obtain ⟨q, a⟩ := x
    cases q <;> simp only [History.operations, ih]
  | reports a hr _ ih => exact ih closed
  | throws a _ _ ih => simp only [History.operations, ih]
  | closes _ ih =>
    simp only [History.operations, ih]
    split <;> simp
  | fails e _ ih => simp only [History.operations, ih]

end Echo

/-! ### Hosts that take no notice -/

section

variable {σ : Type}

/-- The same answer, and states that are related. -/
def Agree {α : Type} (R : σ → σ → Prop) (x y : α × σ) : Prop := y.1 = x.1 ∧ R x.2 y.2

/-- What a host answers while an error is being handled, and how it is left when that is over. -/
def Host.whileHandling (host : Host V E σ) (e : E) (q : Request V E) (s : σ) : q.Answer × σ :=
  let x := host q (host (.handle e) s).2
  (x.1, (host .handled x.2).2)

/-- A host that treats runs alike whichever driver they are of. Related states are those which
nobody who is asked can tell apart. -/
structure Host.Impartial [ErrorLike E] (host : Host V E σ) (R : σ → σ → Prop) : Prop where
  same {s t : σ} (q : Request V E) : R s t → Agree R (host q s) (host q t)
  /-- The log makes no difference to anybody. -/
  reports {s t : σ} {r r' : Report V} : r.Alike r' → R s t →
    Agree R (host (.report r) s) (host (.report r') t)
  /-- Closing a program that was closed does nothing. -/
  again {s t : σ} {p : V} : (host (.close .sync p) s).1 = none →
    R (host (.close .sync p) s).2 t →
    (host (.close .sync p) t).1 = none ∧
      R (host (.close .sync p) s).2 (host (.close .sync p) t).2
  /-- A program into which an error is thrown takes no notice of that error being handled. -/
  throws {s t : σ} {p : V} {e : E} : ErrorLike.nature e = .ordinary → R s t →
    Agree R (host (.resume .sync p (.throw e)) s)
      (host.whileHandling e (.resume .sync p (.throw e)) t)
  /-- A program that is closed takes no notice of that being handled. -/
  closes {s t : σ} {p : V} : R s t →
    Agree R (host (.close .sync p) s) (host.whileHandling ErrorLike.exit (.close .sync p) t)

/-- An impartial host answers the echo of a history that it answers. -/
lemma Echo.answers [ErrorLike E] {host : Host V E σ} {R : σ → σ → Prop} (hhost : host.Impartial R)
    {h h' : History V E} (he : Echo h h') {s s' t : σ} (hst : R s t) (hs : host.Answers s h s') :
    ∃ t', R s' t' ∧ host.Answers t h' t' := by
  induction he generalizing s t with
  | nil =>
    obtain rfl := hs
    exact ⟨t, hst, rfl⟩
  | same x _ ih =>
    obtain ⟨ha, hst'⟩ := hhost.same x.request hst
    obtain ⟨t', hR, ht'⟩ := ih hst' hs.2
    exact ⟨t', hR, hs.1.trans ha.symm, ht'⟩
  | reports a hr _ ih =>
    obtain ⟨ha, hst'⟩ := hhost.reports hr hst
    obtain ⟨t', hR, ht'⟩ := ih hst' hs.2
    exact ⟨t', hR, hs.1.trans ha.symm, ht'⟩
  | throws a hn _ ih =>
    obtain ⟨ha, hst'⟩ := hhost.throws hn hst
    obtain ⟨t', hR, ht'⟩ := ih hst' hs.2
    exact ⟨t', hR, rfl, hs.1.trans ha.symm, rfl, ht'⟩
  | @closes p _ _ _ ih =>
    obtain ⟨ha, hst'⟩ := hhost.closes hst
    obtain ⟨hnone, hst''⟩ := hhost.again (p := p) hs.1.symm hst'
    obtain ⟨t', hR, ht'⟩ := ih hst'' hs.2
    exact ⟨t', hR, rfl, hs.1.trans ha.symm, rfl, hnone.symm, ht'⟩
  | fails e _ ih =>
    obtain ⟨ha, hst'⟩ := hhost.closes hst
    obtain ⟨t', hR, ht'⟩ := ih hst' hs.2
    exact ⟨t', hR, rfl, hs.1.trans ha.symm, rfl, ht'⟩

end

end Provision
