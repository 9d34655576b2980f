import Provision.Proofs.Monitor

/-!
Courses: one call of the driver seen by itself, with the calls it makes for nested programs.

A run has one stack for all the calls that it is made of. A `Course` is what one of them goes
through until its outcome: exchanges of its own, and between them the whole histories of nested
calls (`Passage`), each of which is a course again.

* `Course.goes` and `Run.Goes.course`: the calls that come to an outcome are exactly the courses;
* `Run.Goes.apart`: whatever waits below it, a call goes on as it does by itself, until it comes to
  its outcome and hands that on;
* `Course.keeps`: what every talk of a call preserves holds of its whole course.
-/

namespace Provision

variable {V E : Type}

/-! ### Passages -/

/-- A part of a call: an exchange of its own, or the call for a nested program. -/
inductive Passage (V E : Type) where
  | own (x : Exchange V E)
  | nested (program : V) (h : History V E) (outcome : Except E V)

/-- The exchanges that a part of a call consists of. -/
def Passage.exchanges : Passage V E → History V E
  | .own x => [x]
  | .nested _ h _ => h

/-- All the exchanges of a call, those of nested calls included. -/
def exchanges (k : List (Passage V E)) : History V E := k.flatMap Passage.exchanges

@[simp]
lemma exchanges_append (k k' : List (Passage V E)) :
    exchanges (k ++ k') = exchanges k ++ exchanges k' := List.flatMap_append

@[simp]
lemma exchanges_nested (q : V) (h : History V E) (r : Except E V) (k : List (Passage V E)) :
    exchanges (.nested q h r :: k) = h ++ exchanges k := List.flatMap_cons

@[simp]
lemma exchanges_own (h : History V E) : exchanges (h.map .own) = h := by
  induction h with
  | nil => rfl
  | cons x h ih => exact congrArg (x :: ·) ih

/-! ### Courses -/

section

variable [ValueLike V] [ErrorLike E] {m : Manner}

/-- A call that is in a talk goes on to its outcome. -/
inductive Course (m : Manner) :
    Talk V E (Verdict V E) → List (Passage V E) → Except E V → Prop
  | leaves {t : Talk V E (Verdict V E)} {h : History V E} {r : Except E V} :
    t.Comes h (.leave r) → Course m t (h.map .own) r
  | again {t : Talk V E (Verdict V E)} {h : History V E} {l : Level V} {how : Resumption V E}
      {k : List (Passage V E)} {r : Except E V} :
    t.Comes h (.again l how) → Course m (cycle m l how) k r → Course m t (h.map .own ++ k) r
  | enters {t : Talk V E (Verdict V E)} {h : History V E} {l : Level V} {q : V}
      {i k : List (Passage V E)} {r' r : Except E V} :
    t.Comes h (.enter l q) → Course m (takeUp m q) i r' → Course m (proceed m l r') k r →
    Course m t (h.map .own ++ .nested q (exchanges i) r' :: k) r

/-- A call that comes to an outcome hands it on to whatever waits for it. -/
lemma Course.goes {t : Talk V E (Verdict V E)} {k : List (Passage V E)} {r : Except E V}
    (hc : Course m t k r) (waiting : List (Level V)) :
    (Run.active waiting t).Goes m (exchanges k) ((Verdict.leave r).next m waiting) := by
  induction hc generalizing waiting with
  | @leaves _ h _ ht =>
    rw [exchanges_own, ← List.append_nil h]
    exact .of_comes ht (.here _)
  | again ht _ ih =>
    rw [exchanges_append, exchanges_own]
    exact .of_comes ht (ih waiting)
  | @enters _ _ l _ _ _ _ _ ht _ _ ihi ihk =>
    rw [exchanges_append, exchanges_own, exchanges_nested]
    exact .of_comes ht ((ihi (l :: waiting)).append (ihk waiting))

/-- Nested calls come to their outcomes as well. -/
lemma Course.nested_course {t : Talk V E (Verdict V E)} {k : List (Passage V E)} {r : Except E V}
    (hc : Course m t k r) {q : V} {h : History V E} {r' : Except E V}
    (hn : .nested q h r' ∈ k) : ∃ i, exchanges i = h ∧ Course m (takeUp m q) i r' := by
  have hown : ∀ h₀ : History V E, .nested q h r' ∉ h₀.map Passage.own := by simp
  induction hc with
  | leaves => exact absurd hn (hown _)
  | again _ _ ih => exact ih ((List.mem_append.1 hn).resolve_left (hown _))
  | enters _ hi _ _ ihk =>
    obtain hn | hn := List.mem_cons.1 ((List.mem_append.1 hn).resolve_left (hown _))
    · cases hn
      exact ⟨_, rfl, hi⟩
    · exact ihk hn

/-- A course begins with the request that its talk puts. -/
lemma Course.ask_inv {q : Request V E} {next : q.Answer → Talk V E (Verdict V E)}
    {k : List (Passage V E)} {r : Except E V} (hc : Course m (.ask q next) k r) :
    ∃ a k', k = .own ⟨q, a⟩ :: k' ∧ Course m (next a) k' r := by
  cases hc with
  | leaves ht =>
    obtain ⟨a, h, rfl, ht⟩ := ht
    exact ⟨a, _, rfl, .leaves ht⟩
  | again ht hk =>
    obtain ⟨a, h, rfl, ht⟩ := ht
    exact ⟨a, _, rfl, .again ht hk⟩
  | enters ht hi hk =>
    obtain ⟨a, h, rfl, ht⟩ := ht
    exact ⟨a, _, rfl, .enters ht hi hk⟩

/-- A call with others that wait for it, until the last of them has come to its outcome. -/
def Courses (m : Manner) :
    List (Level V) → Talk V E (Verdict V E) → History V E → Except E V → Prop
  | [], t, h, r => ∃ k, exchanges k = h ∧ Course m t k r
  | l :: waiting, t, h, r => ∃ k r' h', h = exchanges k ++ h' ∧ Course m t k r' ∧
    Courses m waiting (proceed m l r') h' r

/-- What can be put before every course of a talk can be put before the whole. -/
lemma Courses.map {waiting : List (Level V)} {t t' : Talk V E (Verdict V E)} {h h₁ : History V E}
    {r : Except E V}
    (hmap : ∀ k r', Course m t k r' → ∃ k', exchanges k' = h₁ ++ exchanges k ∧ Course m t' k' r')
    (hc : Courses m waiting t h r) : Courses m waiting t' (h₁ ++ h) r := by
  cases waiting with
  | nil =>
    obtain ⟨k, rfl, hk⟩ := hc
    exact hmap k r hk
  | cons l waiting =>
    obtain ⟨k, r', h', rfl, hk, hw⟩ := hc
    obtain ⟨k', hk', hc'⟩ := hmap k r' hk
    exact ⟨k', r', h', by rw [hk', List.append_assoc], hc', hw⟩

/-- A call that has come to its outcome has gone through a course. -/
lemma Run.Goes.course {t : Talk V E (Verdict V E)} {h : History V E} {r : Except E V}
    (hg : (Run.active [] t).Goes m h (.over r)) : ∃ k, exchanges k = h ∧ Course m t k r := by
  refine hg.over_induction (motive := fun run h => match run with
    | .active waiting t => Courses m waiting t h r
    | .over r' => r' = r ∧ h = []) ⟨rfl, rfl⟩ ?_
  rintro waiting t h₁ v h₂ ht hv
  cases v with
  | again l how =>
    refine Courses.map (fun k r' hk => ⟨h₁.map .own ++ k, ?_, .again ht hk⟩) hv
    rw [exchanges_append, exchanges_own]
  | enter l q =>
    obtain ⟨i, r', h', rfl, hi, hw⟩ := hv
    rw [← List.append_assoc]
    refine Courses.map (fun k r'' hk => ⟨h₁.map .own ++ .nested q (exchanges i) r' :: k, ?_,
      .enters ht hi hk⟩) hw
    rw [exchanges_append, exchanges_own, exchanges_nested, List.append_assoc]
  | leave r' =>
    cases waiting with
    | nil =>
      obtain ⟨rfl, rfl⟩ := hv
      exact ⟨h₁.map .own, by rw [exchanges_own, List.append_nil], .leaves ht⟩
    | cons l waiting => exact ⟨h₁.map .own, r', h₂, by rw [exchanges_own], .leaves ht, hv⟩

/-! ### Calls among others -/

/-- The levels of a call, above those that wait for it, are still going on as they do by themselves,
or they have come to the outcome to which they come by themselves and have handed that on. -/
def Run.GoesApart (m : Manner) (waiting own : List (Level V)) (t : Talk V E (Verdict V E))
    (h : History V E) (run : Run V E) : Prop :=
  (∃ own' t', run = .active (own' ++ waiting) t' ∧
    (Run.active own t).Goes m h (.active own' t')) ∨
  ∃ h₁ h₂ r, h = h₁ ++ h₂ ∧ (Run.active own t).Goes m h₁ (.over r) ∧
    ((Verdict.leave r).next m waiting).Goes m h₂ run

namespace Run.GoesApart

variable {waiting own own' : List (Level V)} {h : History V E} {run : Run V E}

lemma decided {v : Verdict V E} {t : Talk V E (Verdict V E)}
    (hv : v.next m own = .active own' t) (ha : GoesApart m waiting own' t h run) :
    GoesApart m waiting own (.done v) h run := by
  obtain ⟨d, t', hrun, hd⟩ | ⟨h₁, h₂, r, rfl, hd, hrest⟩ := ha
  · exact .inl ⟨d, t', hrun, .decided (hv ▸ hd)⟩
  · exact .inr ⟨h₁, h₂, r, rfl, .decided (hv ▸ hd), hrest⟩

lemma answered {q : Request V E} {next : q.Answer → Talk V E (Verdict V E)} {a : q.Answer}
    (ha : GoesApart m waiting own (next a) h run) :
    GoesApart m waiting own (.ask q next) (⟨q, a⟩ :: h) run := by
  obtain ⟨d, t', hrun, hd⟩ | ⟨h₁, h₂, r, rfl, hd, hrest⟩ := ha
  · exact .inl ⟨d, t', hrun, .answered a hd⟩
  · exact .inr ⟨⟨q, a⟩ :: h₁, h₂, r, rfl, .answered a hd, hrest⟩

end Run.GoesApart

/-- What the levels of a call do does not depend on those that wait for it. -/
lemma Run.Goes.apart {waiting : List (Level V)} (own : List (Level V)) {t : Talk V E (Verdict V E)}
    {h : History V E} {run : Run V E} (hg : (Run.active (own ++ waiting) t).Goes m h run) :
    Run.GoesApart m waiting own t h run := by
  generalize hr : Run.active (own ++ waiting) t = r₀ at hg
  induction hg generalizing own t with
  | here =>
    subst hr
    exact .inl ⟨own, t, rfl, .here _⟩
  | @decided _ v h run hn ih =>
    cases hr
    cases v with
    | again l how => exact .decided rfl (ih own rfl)
    | enter l q => exact .decided rfl (ih (l :: own) rfl)
    | leave r =>
      cases own with
      | nil => exact .inr ⟨[], h, r, rfl, .decided (.here _), hn⟩
      | cons l own => exact .decided rfl (ih own rfl)
  | answered a _ ih =>
    cases hr
    exact (ih own rfl).answered

/-! ### Watching a course -/

/-- A monitor that puts down what a call goes through, nested calls included. -/
def Passage.recorder : Monitor V E (List (Passage V E)) where
  allows _ _ := True
  moves k x k' := k' = k ++ [.own x]
  turned := id
  turned_turned _ := rfl
  moves_turned _ h := h

omit [ValueLike V] [ErrorLike E] in
@[simp]
lemma keeps_ask_recorder {α : Type} {P : List (Passage V E) → α → Prop} {q : Request V E}
    {next : q.Answer → Talk V E α} {k : List (Passage V E)} :
    (Talk.ask q next).Keeps Passage.recorder P k ↔
      ∀ a, (next a).Keeps Passage.recorder P (k ++ [.own ⟨q, a⟩]) :=
  ⟨fun h a => h.2 a _ rfl, fun h => ⟨trivial, fun a _ hk => hk ▸ h a⟩⟩

omit [ValueLike V] [ErrorLike E] in
@[simp]
lemma keeps_handling_recorder {α : Type} {P : List (Passage V E) → α → Prop} {e : E}
    {t : Talk V E α} {k : List (Passage V E)} :
    (Talk.handling e t).Keeps Passage.recorder P k ↔ t.Keeps Passage.recorder
      (fun k a => P (k ++ [.own ⟨.handled, ()⟩]) a) (k ++ [.own ⟨.handle e, ()⟩]) := by
  simp only [Talk.handling, keeps_ask_recorder, Talk.keeps_bind, Talk.keeps_done]
  exact ⟨fun h => (h ()).mono fun _ _ hp => hp (), fun h _ => h.mono fun _ _ hp _ => hp⟩

omit [ValueLike V] [ErrorLike E] in
/-- What a talk comes to is approved together with the exchanges it took. -/
lemma Talk.Keeps.recorded {α : Type} {P : List (Passage V E) → α → Prop} {t : Talk V E α}
    {k : List (Passage V E)} (ht : t.Keeps Passage.recorder P k) {h : History V E} {a : α}
    (ha : t.Comes h a) : P (k ++ h.map .own) a := by
  have hw : ∀ k (h : History V E), Passage.recorder.Watches k h (k ++ h.map .own) := by
    intro k h
    induction h generalizing k with
    | nil => exact List.append_nil k
    | cons x h ih =>
      have := ih (k ++ [.own x])
      rw [List.append_assoc] at this
      exact ⟨_, rfl, this⟩
  exact ht.comes ha (hw k h)

/-- What every talk of a call preserves, whatever nested calls come to, holds of its course. -/
lemma Course.keeps {I : List (Passage V E) → Verdict V E → Prop}
    (hagain : ∀ k l how, I k (.again l how) → (cycle m l how).Keeps Passage.recorder I k)
    (henter : ∀ k l q h r, I k (.enter l q) →
      (proceed m l r).Keeps Passage.recorder I (k ++ [.nested q h r]))
    {t : Talk V E (Verdict V E)} {k : List (Passage V E)} {r : Except E V} (hc : Course m t k r)
    {k₀ : List (Passage V E)} (ht : t.Keeps Passage.recorder I k₀) : I (k₀ ++ k) (.leave r) := by
  induction hc generalizing k₀ with
  | leaves hcomes => exact ht.recorded hcomes
  | again hcomes _ ih =>
    rw [← List.append_assoc]
    exact ih (hagain _ _ _ (ht.recorded hcomes))
  | @enters _ h _ q i _ r' _ hcomes _ _ _ ihk =>
    have := ihk (henter _ _ _ (exchanges i) r' (ht.recorded hcomes))
    rwa [List.append_assoc, List.append_assoc, List.singleton_append] at this

end

end Provision
