import Provision.Proofs.Conversation
import Provision.Proofs.Discipline
import Provision.Proofs.Echo

/-!
Evaluation: a call that returns has resolved its program depth first, one request after the other.

The `Unfolding` of a program is the tree of what it asks for until it comes to a value, with the
unfoldings of nested programs where they were yielded. `Unfolds` goes through a tree in the order in
which a reader would and says which exchanges that takes; nothing in it is said about stacks,
verdicts or levels that wait. While no stop is requested a call returns exactly if it can be read in
this way.

* `cycle_comes`: all that one cycle can do without a failure;
* `Course.unfolds` and `Unfolds.course`: the calls that return are exactly the unfoldings;
* `Unfolds.events`, `Unfolds.lookups`: what a tree says of resumptions and lookups;
* `Unfolds.inner`: every nested program is evaluated as it is by itself.
-/

namespace Provision

variable {V E : Type}

/-! ### Unfoldings -/

/-- What a program asks for until it comes to a value. -/
inductive Unfolding (V : Type) where
  | ends (value : V)
  | completes (completion value : V)
  | service (token name found : V) (rest : Unfolding V)
  | nested (program : V) (inner rest : Unfolding V)
  | passes (payload : V) (rest : Unfolding V)

/-- A resumption of a program, or a name that was found. -/
inductive Event (V E : Type) where
  | resumed (program : V) (how : Resumption V E)
  | found (name value : V)

namespace Unfolding

/-- The value that the program comes to. -/
def value : Unfolding V → V
  | .ends value => value
  | .completes _ value => value
  | .service _ _ _ rest => rest.value
  | .nested _ _ rest => rest.value
  | .passes _ rest => rest.value

/-- The names of all the tokens, those of nested programs where these were yielded. -/
def names : Unfolding V → List V
  | .ends _ => []
  | .completes .. => []
  | .service _ name _ rest => name :: rest.names
  | .nested _ inner rest => inner.names ++ rest.names
  | .passes _ rest => rest.names

/-- The events of an evaluation of `p` that begins with sending `u`: every payload is answered once,
by what was found, by the value of the nested program or by itself. -/
def events [ValueLike V] (p : V) (u : V) : Unfolding V → List (Event V E)
  | .ends _ => [.resumed p (.send u)]
  | .completes .. => [.resumed p (.send u)]
  | .service _ name found rest => .resumed p (.send u) :: .found name found :: rest.events p found
  | .nested q inner rest =>
    .resumed p (.send u) :: (inner.events q ValueLike.nothing ++ rest.events p inner.value)
  | .passes payload rest => .resumed p (.send u) :: rest.events p payload

/-- The nested programs at any depth, with their own unfoldings. -/
def inners : Unfolding V → List (V × Unfolding V)
  | .ends _ => []
  | .completes .. => []
  | .service _ _ _ rest => rest.inners
  | .nested q inner rest => (q, inner) :: (inner.inners ++ rest.inners)
  | .passes _ rest => rest.inners

end Unfolding

/-- The event that an exchange is. -/
def Exchange.event : Exchange V E → Option (Event V E)
  | ⟨.resume _ p how, _⟩ => some (.resumed p how)
  | ⟨.find name, .found v⟩ => some (.found name v)
  | _ => none

/-- The resumptions and the names that were found, in order. -/
def History.events (h : History V E) : List (Event V E) := h.filterMap Exchange.event

/-! ### What a program asks for once -/

/-- The level of a program that has suspended. -/
def Level.halted (p : V) : Form → Level V
  | .direct via => ⟨p, .inl via⟩
  | .lifted => ⟨p, .inr .waiting⟩

/-- The level of a program that has ended. -/
def Level.ended (p : V) : Form → Level V
  | .direct via => ⟨p, .inl via⟩
  | .lifted => ⟨p, .inr .delivering⟩

section

variable (m : Manner) (p : V) (form : Form) (u : V)

/-- The program ends. -/
def ending (value : V) : History V E :=
  [⟨.resume form.via p (.send u), .ends value⟩, ⟨.report (.finished m p form), none⟩]

/-- The program yields a completion. -/
def completing (completion value : V) (traits : Traits) : History V E :=
  [⟨.resume form.via p (.send u), .yields completion⟩, ⟨.inspect completion .payload, .ok traits⟩,
    ⟨.report (.finished m p form), none⟩, ⟨.valueOf completion, .ok value⟩]

/-- The program yields a token, and the name it asks for is found. -/
def serving (token name found : V) (traits : Traits) : History V E :=
  [⟨.resume form.via p (.send u), .yields token⟩, ⟨.inspect token .payload, .ok traits⟩,
    ⟨.due, .goOn⟩, ⟨.nameOf token, .ok name⟩, ⟨.find name, .found found⟩,
    ⟨.report (.resolved name), none⟩]

/-- The program yields a nested one. -/
def nesting (nested : V) (traits : Traits) : History V E :=
  [⟨.resume form.via p (.send u), .yields nested⟩, ⟨.inspect nested .payload, .ok traits⟩,
    ⟨.due, .goOn⟩, ⟨.report (.nested m nested), none⟩]

/-- The program yields anything else. -/
def passing (payload : V) (traits : Traits) : History V E :=
  [⟨.resume form.via p (.send u), .yields payload⟩, ⟨.inspect payload .payload, .ok traits⟩,
    ⟨.due, .goOn⟩, ⟨.report (.passing payload), none⟩]

/-- A program is taken up and accepted. -/
def accepting (traits : Traits) : History V E :=
  [⟨.inspect p .program, .ok traits⟩, ⟨.barred, none⟩]

end

/-! ### Reading a tree -/

section

variable [ValueLike V] [ErrorLike E] {m : Manner}

/-- The exchanges that an unfolding of `p` takes, beginning with sending `u`. In the end the program
is closed, and nothing comes out of that. -/
inductive Unfolds (m : Manner) : V → Form → V → Unfolding V → History V E → Prop
  | ends {p : V} {form : Form} {u : V} (value : V) {closing : History V E} :
    (Level.ended p form).close.Comes closing none →
    Unfolds m p form u (.ends (form.via.value value)) (ending m p form u value ++ closing)
  | completes {p : V} {form : Form} {u completion value : V} {traits : Traits}
      {closing : History V E} :
    traits.kind = .ok .completion → (Level.halted p form).close.Comes closing none →
    Unfolds m p form u (.completes completion value)
      (completing m p form u completion value traits ++ closing)
  | service {p : V} {form : Form} {u token name found : V} {traits : Traits} {rest : Unfolding V}
      {h : History V E} :
    traits.kind = .ok .service → Unfolds m p form found rest h →
    Unfolds m p form u (.service token name found rest)
      (serving p form u token name found traits ++ h)
  | nested {p : V} {form form' : Form} {u q : V} {traits traits' : Traits}
      {inner rest : Unfolding V} {i h : History V E} :
    traits.kind = .ok .nested → m.accept traits' = .ok form' →
    Unfolds m q form' ValueLike.nothing inner i → Unfolds m p form inner.value rest h →
    Unfolds m p form u (.nested q inner rest)
      (nesting m p form u q traits ++ (accepting q traits' ++ i ++ h))
  | passes {p : V} {form : Form} {u payload : V} {traits : Traits} {rest : Unfolding V}
      {h : History V E} :
    traits.kind = .ok .passthrough → Unfolds m p form payload rest h →
    Unfolds m p form u (.passes payload rest) (passing p form u payload traits ++ h)

/-- The exchanges that the evaluation of a program takes. -/
def Evaluates (m : Manner) (p : V) (T : Unfolding V) (h : History V E) : Prop :=
  ∃ traits form i, h = accepting p traits ++ i ∧ m.accept traits = .ok form ∧
    Unfolds m p form ValueLike.nothing T i

end

/-! ### What goes well -/

/-- No stop is requested in an exchange. -/
def Exchange.Unstopped : Exchange V E → Prop
  | ⟨.barred, a⟩ => a = none
  | ⟨.due, a⟩ => a = .goOn
  | _ => True

/-- The level is not left with an error. -/
def Verdict.Sound : Verdict V E → Prop
  | .leave (.error _) => False
  | _ => True

section

variable {h : History V E}

lemma lookup_comes {name v : V} :
    (lookup name).Comes h (.ok v : Except E V) ↔ h = [⟨.find name, .found v⟩] := by
  constructor
  · rintro ⟨a, h', rfl, hn⟩
    cases a with
    | found v' =>
      obtain ⟨rfl, hv⟩ := hn
      cases hv
      rfl
    | failed e => cases hn.2
    | absent said =>
      obtain ⟨_, _, -, hn⟩ := hn
      obtain ⟨_, _, _, -, ⟨a, _, -, hn⟩, _, _, -, -, rfl⟩ := (Talk.comes_bind _).1 hn
      cases a with
      | some e => cases hn.2
      | none => cases hn.choose_spec.choose_spec.2.2
  · rintro rfl
    exact ⟨_, _, rfl, rfl, rfl⟩

lemma classify_comes {payload : V} {kind : Kind} :
    (classify payload).Comes h (.ok kind : Except E Kind) ↔
      ∃ traits, traits.kind = .ok kind ∧ h = [⟨.inspect payload .payload, .ok traits⟩] := by
  constructor
  · rintro ⟨a, h', rfl, hn⟩
    cases a with
    | error e => cases hn.2
    | ok traits =>
      cases hkind : traits.kind with
      | ok kind' =>
        simp only [hkind] at hn
        obtain ⟨rfl, hv⟩ := hn
        cases hv
        exact ⟨traits, hkind, rfl⟩
      | error why =>
        cases why with
        | uncalled =>
          simp only [hkind] at hn
          obtain ⟨_, _, -, -, hv⟩ := hn
          cases hv
        | coroutine =>
          simp only [hkind] at hn
          obtain ⟨a, _, -, hn⟩ := hn
          cases a with
          | some e => cases hn.2
          | none => cases hn.choose_spec.choose_spec.2.2
  · rintro ⟨traits, hkind, rfl⟩
    exact ⟨.ok traits, [], rfl, by simp [hkind, Talk.Comes]⟩

end

section

variable [ErrorLike E] {m : Manner} {l : Level V} {h : History V E} {w : Verdict V E}

lemma finish_comes {r : Except E V} (hw : w.Sound) : (finish m l r).Comes h w ↔
    ∃ v, r = .ok v ∧ w = .leave (.ok v) ∧ l.close.Comes h none := by
  unfold finish
  rw [Talk.comes_bind]
  constructor
  · rintro ⟨h₁, a, h₂, rfl, hclose, hdone⟩
    cases a with
    | some e =>
      obtain ⟨-, rfl⟩ := hdone
      rw [Manner.out_error] at hw
      exact hw.elim
    | none =>
      obtain ⟨rfl, rfl⟩ := hdone
      cases r with
      | error e =>
        rw [Manner.out_error] at hw
        exact hw.elim
      | ok v => exact ⟨v, rfl, by cases m <;> rfl, by rwa [List.append_nil]⟩
  · rintro ⟨v, rfl, rfl, hclose⟩
    exact ⟨h, none, [], (List.append_nil h).symm, hclose, rfl, by cases m <;> rfl⟩

lemma reporting_comes {r : Report V} {next : Talk V E (Verdict V E)} (hw : w.Sound) :
    (reporting m l r next).Comes h w ↔ ∃ h', h = ⟨.report r, none⟩ :: h' ∧ next.Comes h' w := by
  constructor
  · rintro ⟨a, h', rfl, hn⟩
    cases a with
    | some e =>
      obtain ⟨v, hv, -⟩ := (finish_comes hw).1 hn
      cases hv
    | none => exact ⟨h', rfl, hn⟩
  · rintro ⟨h', rfl, hn⟩
    exact ⟨none, h', rfl, hn⟩

lemma reporting_done_comes {r : Report V} {v : Verdict V E} (hw : w.Sound) :
    (reporting m l r (.done v)).Comes h w ↔ h = [⟨.report r, none⟩] ∧ w = v := by
  rw [reporting_comes hw]
  exact ⟨fun ⟨_, hh, hn, hv⟩ => ⟨hn ▸ hh, hv⟩, fun ⟨hh, hv⟩ => ⟨[], hh, rfl, hv⟩⟩

lemma deliver_comes {value : Talk V E (Except E V)} (hw : w.Sound) :
    (deliver m l value).Comes h w ↔ ∃ h₁ v h₂,
      h = ⟨.report (.finished m l.program l.form), none⟩ :: (h₁ ++ h₂) ∧
      value.Comes h₁ (.ok v) ∧ w = .leave (.ok v) ∧ l.close.Comes h₂ none := by
  rw [deliver, reporting_comes hw]
  constructor
  · rintro ⟨_, rfl, hn⟩
    obtain ⟨h₁, r, h₂, rfl, hvalue, hfinish⟩ := (Talk.comes_bind _).1 hn
    obtain ⟨v, rfl, rfl, hclose⟩ := (finish_comes hw).1 hfinish
    exact ⟨h₁, v, h₂, rfl, hvalue, rfl, hclose⟩
  · rintro ⟨h₁, v, h₂, rfl, hvalue, rfl, hclose⟩
    exact ⟨_, rfl, (Talk.comes_bind _).2
      ⟨h₁, _, h₂, rfl, hvalue, (finish_comes hw).2 ⟨v, rfl, rfl, hclose⟩⟩⟩

lemma unlessDue_comes {answer : Talk V E (Verdict V E)} (hu : ∀ x ∈ h, x.Unstopped) :
    (unlessDue m l answer).Comes h w ↔ ∃ h', h = ⟨.due, .goOn⟩ :: h' ∧ answer.Comes h' w := by
  constructor
  · rintro ⟨a, h', rfl, hn⟩
    obtain rfl : a = .goOn := hu _ List.mem_cons_self
    exact ⟨h', rfl, hn⟩
  · rintro ⟨h', rfl, hn⟩
    exact ⟨.goOn, h', rfl, hn⟩

/-- How a payload is answered without a failure. -/
lemma settle_comes {payload : V} {kind : Kind} (hw : w.Sound) (hu : ∀ x ∈ h, x.Unstopped) :
    (settle m l payload kind).Comes h w ↔ match kind with
      | .completion => ∃ v closing,
        h = ⟨.report (.finished m l.program l.form), none⟩ :: ⟨.valueOf payload, .ok v⟩ :: closing ∧
          w = .leave (.ok v) ∧ l.close.Comes closing none
      | .nested => h = [⟨.due, .goOn⟩, ⟨.report (.nested m payload), none⟩] ∧ w = .enter l payload
      | .service => ∃ name v, h = [⟨.due, .goOn⟩, ⟨.nameOf payload, .ok name⟩,
          ⟨.find name, .found v⟩, ⟨.report (.resolved name), none⟩] ∧ w = .again l (.send v)
      | .passthrough => h = [⟨.due, .goOn⟩, ⟨.report (.passing payload), none⟩] ∧
          w = .again l (.send payload) := by
  cases kind with
  | completion =>
    refine (deliver_comes hw).trans ⟨?_, ?_⟩
    · rintro ⟨_, v, closing, rfl, ⟨_, _, rfl, rfl, rfl⟩, rfl, hclose⟩
      exact ⟨v, closing, rfl, rfl, hclose⟩
    · rintro ⟨v, closing, rfl, rfl, hclose⟩
      exact ⟨[_], v, closing, rfl, ⟨_, _, rfl, rfl, rfl⟩, rfl, hclose⟩
  | nested =>
    refine (unlessDue_comes hu).trans ⟨?_, ?_⟩
    · rintro ⟨_, rfl, hn⟩
      obtain ⟨rfl, rfl⟩ := (reporting_done_comes hw).1 hn
      exact ⟨rfl, rfl⟩
    · rintro ⟨rfl, rfl⟩
      exact ⟨_, rfl, _, _, rfl, rfl, rfl⟩
  | passthrough =>
    refine (unlessDue_comes hu).trans ⟨?_, ?_⟩
    · rintro ⟨_, rfl, hn⟩
      obtain ⟨rfl, rfl⟩ := (reporting_done_comes hw).1 hn
      exact ⟨rfl, rfl⟩
    · rintro ⟨rfl, rfl⟩
      exact ⟨_, rfl, _, _, rfl, rfl, rfl⟩
  | service =>
    refine (unlessDue_comes hu).trans ⟨?_, ?_⟩
    · rintro ⟨_, rfl, a, h, rfl, hn⟩
      cases a with
      | error e => cases ((finish_comes hw).1 hn).choose_spec.1
      | ok name =>
        obtain ⟨h₁, a, h₂, rfl, hlookup, hnext⟩ := (Talk.comes_bind _).1 hn
        cases a with
        | error e => cases ((finish_comes hw).1 hnext).choose_spec.1
        | ok v =>
          obtain rfl := lookup_comes.1 hlookup
          obtain ⟨rfl, rfl⟩ := (reporting_done_comes hw).1 hnext
          exact ⟨name, v, rfl, rfl⟩
    · rintro ⟨name, v, rfl, rfl⟩
      exact ⟨_, rfl, _, _, rfl, _, _, rfl, _, _, rfl, rfl, rfl⟩

variable [ValueLike V] {p : V} {form : Form} {u : V}

/-- The level of `p` from which sending `u` is what resumes the program. -/
def Level.Awaits (l : Level V) (p : V) (form : Form) (u : V) : Prop :=
  l = .halted p form ∨ l = .opened p form ∧ u = ValueLike.nothing

/-- What follows on a response of the program `p`. -/
def afterSignal (m : Manner) (p : V) (form : Form) : Signal V E → Talk V E (Verdict V E)
  | .yields payload => (classify payload).bind fun
    | .error e => finish m (.halted p form) (.error e)
    | .ok kind => settle m (.halted p form) payload kind
  | .ends value => deliver m (.ended p form) (.done (.ok (form.via.value value)))
  | .raises e =>
    match form with
    | .direct via => finish m ⟨p, .inl via⟩ (.error e)
    | .lifted => finish m ⟨p, .inr .finished⟩ (.error (Boundary.lifting.cross e))

lemma cycle_send (hl : l.Awaits p form u) : (cycle m l (.send u) : Talk V E _) =
    .ask (.resume form.via p (.send u)) (afterSignal m p form) := by
  obtain rfl | ⟨rfl, rfl⟩ := hl <;> obtain via | _ := form
  all_goals
    unfold cycle
    refine congrArg (Talk.ask _) (funext fun s => ?_)
    cases s <;> first | rfl | cases via <;> rfl

omit [ErrorLike E] [ValueLike V] in
lemma Level.halted_form (p : V) (form : Form) :
    (Level.halted p form).form = form ∧ (Level.halted p form).program = p := by
  cases form <;> exact ⟨rfl, rfl⟩

omit [ErrorLike E] [ValueLike V] in
lemma Level.ended_form (p : V) (form : Form) :
    (Level.ended p form).form = form ∧ (Level.ended p form).program = p := by
  cases form <;> exact ⟨rfl, rfl⟩

lemma afterSignal_raises {e : E} (hw : w.Sound) :
    ¬(afterSignal m p form (.raises e)).Comes h w := by
  have hfinish : ∀ l e, ¬(finish m l (.error e : Except E V)).Comes h w := fun l e hn => by
    cases ((finish_comes hw).1 hn).choose_spec.1
  cases form with
  | direct via => exact hfinish _ _
  | lifted => exact hfinish _ _

lemma afterSignal_ends {value : V} (hw : w.Sound) :
    (afterSignal m p form (.ends value)).Comes h w ↔ ∃ closing,
      h = ⟨.report (.finished m p form), none⟩ :: closing ∧
      w = .leave (.ok (form.via.value value)) ∧ (Level.ended p form).close.Comes closing none := by
  obtain ⟨hf, hp⟩ := Level.ended_form p form
  refine (deliver_comes hw).trans ⟨?_, ?_⟩
  · rintro ⟨_, _, closing, rfl, ⟨rfl, ⟨⟩⟩, rfl, hclose⟩
    exact ⟨closing, by rw [hf, hp]; rfl, rfl, hclose⟩
  · rintro ⟨closing, rfl, rfl, hclose⟩
    exact ⟨[], _, closing, by rw [hf, hp]; rfl, ⟨rfl, rfl⟩, rfl, hclose⟩

lemma afterSignal_yields {payload : V} (hw : w.Sound) :
    (afterSignal m p form (.yields payload)).Comes h w ↔ ∃ traits kind h', traits.kind = .ok kind ∧
      h = ⟨.inspect payload .payload, .ok traits⟩ :: h' ∧
      (settle m (.halted p form) payload kind).Comes h' w := by
  refine (Talk.comes_bind _).trans ⟨?_, ?_⟩
  · rintro ⟨h₁, a, h₂, rfl, hclassify, hn⟩
    cases a with
    | error e => cases ((finish_comes hw).1 hn).choose_spec.1
    | ok kind =>
      obtain ⟨traits, hkind, rfl⟩ := classify_comes.1 hclassify
      exact ⟨traits, kind, h₂, hkind, rfl, hn⟩
  · rintro ⟨traits, kind, h', hkind, rfl, hn⟩
    exact ⟨[_], .ok kind, h', rfl, classify_comes.2 ⟨traits, hkind, rfl⟩, hn⟩

/-- All that one cycle can do without a failure and without a stop: the program ends or yields a
completion, and it is closed; or its payload is answered; or a nested program is run first. -/
lemma cycle_comes (hl : l.Awaits p form u) (hw : w.Sound) (hu : ∀ x ∈ h, x.Unstopped) :
    (cycle m l (.send u)).Comes h w ↔
      (∃ value closing, h = ending m p form u value ++ closing ∧
        w = .leave (.ok (form.via.value value)) ∧ (Level.ended p form).close.Comes closing none) ∨
      (∃ completion value traits closing, traits.kind = .ok .completion ∧
        h = completing m p form u completion value traits ++ closing ∧
        w = .leave (.ok value) ∧ (Level.halted p form).close.Comes closing none) ∨
      (∃ token name v traits, traits.kind = .ok .service ∧
        h = serving p form u token name v traits ∧ w = .again (.halted p form) (.send v)) ∨
      (∃ q traits, traits.kind = .ok .nested ∧ h = nesting m p form u q traits ∧
        w = .enter (.halted p form) q) ∨
      ∃ payload traits, traits.kind = .ok .passthrough ∧ h = passing p form u payload traits ∧
        w = .again (.halted p form) (.send payload) := by
  obtain ⟨hf, hp⟩ := Level.halted_form p form
  rw [cycle_send hl]
  constructor
  · rintro ⟨s, h, rfl, hn⟩
    cases s with
    | raises e => exact absurd hn (afterSignal_raises hw)
    | ends value =>
      obtain ⟨closing, rfl, rfl, hclose⟩ := (afterSignal_ends hw).1 hn
      exact .inl ⟨value, closing, rfl, rfl, hclose⟩
    | yields payload =>
      obtain ⟨traits, kind, h', hkind, rfl, hsettle⟩ := (afterSignal_yields hw).1 hn
      have hn := (settle_comes hw fun x hx =>
        hu x (List.mem_cons_of_mem _ (List.mem_cons_of_mem _ hx))).1 hsettle
      rw [hf, hp] at hn
      cases kind with
      | completion =>
        obtain ⟨v, closing, rfl, rfl, hclose⟩ := hn
        exact .inr (.inl ⟨payload, v, traits, closing, hkind, rfl, rfl, hclose⟩)
      | service =>
        obtain ⟨name, v, rfl, rfl⟩ := hn
        exact .inr (.inr (.inl ⟨payload, name, v, traits, hkind, rfl, rfl⟩))
      | nested =>
        obtain ⟨rfl, rfl⟩ := hn
        exact .inr (.inr (.inr (.inl ⟨payload, traits, hkind, rfl, rfl⟩)))
      | passthrough =>
        obtain ⟨rfl, rfl⟩ := hn
        exact .inr (.inr (.inr (.inr ⟨payload, traits, hkind, rfl, rfl⟩)))
  · have hyields : ∀ {payload : V} {traits : Traits} {kind : Kind} {h' : History V E},
        traits.kind = .ok kind → h = ⟨.resume form.via p (.send u), .yields payload⟩ ::
          ⟨.inspect payload .payload, .ok traits⟩ :: h' →
        (settle m (.halted p form) payload kind).Comes h' w →
        (Talk.ask (.resume form.via p (.send u)) (afterSignal m p form)).Comes h w :=
      fun hkind hh hn => ⟨_, _, hh, (afterSignal_yields hw).2 ⟨_, _, _, hkind, rfl, hn⟩⟩
    have hu' : ∀ {x y h'}, h = x :: y :: h' → ∀ z ∈ h', z.Unstopped := fun hh z hz =>
      hu z (hh ▸ List.mem_cons_of_mem _ (List.mem_cons_of_mem _ hz))
    rintro (⟨value, closing, rfl, rfl, hclose⟩ |
      ⟨completion, value, traits, closing, hkind, hh, rfl, hclose⟩ |
      ⟨token, name, v, traits, hkind, hh, rfl⟩ | ⟨q, traits, hkind, hh, rfl⟩ |
      ⟨payload, traits, hkind, hh, rfl⟩)
    · exact ⟨_, _, rfl, (afterSignal_ends hw).2 ⟨closing, rfl, rfl, hclose⟩⟩
    · refine hyields hkind hh ((settle_comes hw (hu' hh)).2 ⟨value, closing, ?_, rfl, hclose⟩)
      rw [hf, hp]
      rfl
    · exact hyields hkind hh ((settle_comes hw (hu' hh)).2 ⟨name, v, rfl, rfl⟩)
    · exact hyields hkind hh ((settle_comes hw (hu' hh)).2 ⟨rfl, rfl⟩)
    · exact hyields hkind hh ((settle_comes hw (hu' hh)).2 ⟨rfl, rfl⟩)

/-! ### Calls that return -/

/-- What an accepted program leads to while no stop is requested. -/
lemma takeUp_comes (hw : w.Sound) (hu : ∀ x ∈ h, x.Unstopped) : (takeUp m p).Comes h w ↔
    ∃ traits form, m.accept traits = .ok form ∧ h = accepting p traits ∧
      w = .again (.opened p form) (.send ValueLike.nothing) := by
  constructor
  · rintro ⟨a, h, rfl, hn⟩
    cases a with
    | error e =>
      obtain ⟨-, rfl⟩ := hn
      rw [Manner.out_error] at hw
      exact hw.elim
    | ok traits =>
      cases hform : m.accept traits with
      | error why =>
        simp only [hform] at hn
        obtain ⟨e, _, -, -, rfl⟩ := hn
        rw [Manner.out_error] at hw
        exact hw.elim
      | ok form =>
        simp only [hform] at hn
        obtain ⟨a, h, rfl, hn⟩ := hn
        obtain rfl : a = none := hu _ (List.mem_cons_of_mem _ List.mem_cons_self)
        obtain ⟨rfl, rfl⟩ := hn
        exact ⟨traits, form, hform, rfl, rfl⟩
  · rintro ⟨traits, form, hform, rfl, rfl⟩
    refine ⟨.ok traits, _, rfl, ?_⟩
    simp only [hform]
    exact ⟨none, [], rfl, rfl, rfl⟩

/-- A program that is taken up without a failure is evaluated. -/
lemma takeUp_unfolds (hu : ∀ x ∈ h, x.Unstopped) (ht : (takeUp m p).Comes h w) (hw : w.Sound) :
    ∃ form, w = .again (.opened p form) (.send ValueLike.nothing) ∧
      ∀ T i, Unfolds m p form ValueLike.nothing T i → Evaluates m p T (h ++ i) := by
  obtain ⟨traits, form, hform, rfl, rfl⟩ := (takeUp_comes hw hu).1 ht
  exact ⟨form, rfl, fun T i hT => ⟨traits, form, i, rfl, hform, hT⟩⟩

omit [ValueLike V] in
/-- A level that goes on with an error is left with one. -/
lemma finish_error_not_sound {e : E} (ht : (finish m l (.error e)).Comes h w) : ¬w.Sound :=
  fun hw => by cases ((finish_comes hw).1 ht).choose_spec.1

/-- A level that goes on with an error does not return. -/
lemma Course.not_ok_of_error {e : E} {k : List (Passage V E)} {v : V} :
    ¬Course m (proceed m l (.error e)) k (.ok v) := by
  intro hc
  cases hc with
  | leaves ht => exact finish_error_not_sound ht trivial
  | again ht => exact finish_error_not_sound ht trivial
  | enters ht => exact finish_error_not_sound ht trivial

/-- A cycle that leaves its level is a tree that asks for nothing. -/
lemma cycle_leave_unfolds (hl : l.Awaits p form u) (hu : ∀ x ∈ h, x.Unstopped) {v : V}
    (ht : (cycle m l (.send u)).Comes h (.leave (.ok v))) :
    ∃ T, T.value = v ∧ Unfolds m p form u T h := by
  have hw : (Verdict.leave (.ok v) : Verdict V E).Sound := trivial
  obtain ⟨value, closing, rfl, hv, hclose⟩ |
    ⟨completion, value, traits, closing, hkind, rfl, hv, hclose⟩ |
    ⟨_, _, _, _, -, -, hv⟩ | ⟨_, _, -, -, hv⟩ | ⟨_, _, -, -, hv⟩ := (cycle_comes hl hw hu).1 ht
  · cases hv
    exact ⟨_, rfl, .ends value hclose⟩
  · cases hv
    exact ⟨_, rfl, .completes hkind hclose⟩
  all_goals cases hv

/-- A cycle that goes on is the root of a tree of which the rest is what it goes on to. -/
lemma cycle_again_unfolds (hl : l.Awaits p form u) (hu : ∀ x ∈ h, x.Unstopped) {l' : Level V}
    {how : Resumption V E} (ht : (cycle m l (.send u)).Comes h (.again l' how)) :
    ∃ v, l' = .halted p form ∧ how = .send v ∧ ∀ rest k, Unfolds m p form v rest k →
      ∃ T, T.value = rest.value ∧ Unfolds m p form u T (h ++ k) := by
  have hw : (Verdict.again l' how : Verdict V E).Sound := trivial
  obtain ⟨_, _, -, hv, -⟩ | ⟨_, _, _, _, -, -, hv, -⟩ |
    ⟨token, name, v, traits, hkind, rfl, hv⟩ | ⟨_, _, -, -, hv⟩ |
    ⟨payload, traits, hkind, rfl, hv⟩ := (cycle_comes hl hw hu).1 ht
  · cases hv
  · cases hv
  · cases hv
    exact ⟨v, rfl, rfl, fun rest k hrest => ⟨.service token name v rest, rfl, .service hkind hrest⟩⟩
  · cases hv
  · cases hv
    exact ⟨payload, rfl, rfl, fun rest k hrest => ⟨.passes payload rest, rfl, .passes hkind hrest⟩⟩

/-- A cycle that enters a nested program is the root of a tree of which this is the first branch. -/
lemma cycle_enter_unfolds (hl : l.Awaits p form u) (hu : ∀ x ∈ h, x.Unstopped) {l' : Level V}
    {q : V} (ht : (cycle m l (.send u)).Comes h (.enter l' q)) :
    l' = .halted p form ∧ ∀ inner i rest k, Evaluates m q inner i →
      Unfolds m p form inner.value rest k →
      Unfolds m p form u (.nested q inner rest) (h ++ (i ++ k)) := by
  have hw : (Verdict.enter l' q : Verdict V E).Sound := trivial
  obtain ⟨_, _, -, hv, -⟩ | ⟨_, _, _, _, -, -, hv, -⟩ | ⟨_, _, _, _, -, -, hv⟩ |
    ⟨q, traits, hkind, rfl, hv⟩ | ⟨_, _, -, -, hv⟩ := (cycle_comes hl hw hu).1 ht
  · cases hv
  · cases hv
  · cases hv
  · cases hv
    refine ⟨rfl, ?_⟩
    rintro inner _ rest k ⟨traits', form', i, rfl, hform, hinner⟩ hrest
    exact .nested hkind hform hinner hrest
  · cases hv

/-- A call that returns can be read off a tree. -/
lemma Course.unfolds {t : Talk V E (Verdict V E)} {k : List (Passage V E)} {r : Except E V}
    (hc : Course m t k r) {v : V} (hr : r = .ok v) (hu : ∀ x ∈ exchanges k, x.Unstopped) :
    (∀ l p form u, l.Awaits p form u → t = cycle m l (.send u) →
      ∃ T, T.value = v ∧ Unfolds m p form u T (exchanges k)) ∧
    ∀ p, t = takeUp m p → ∃ T, T.value = v ∧ Evaluates m p T (exchanges k) := by
  induction hc generalizing v with
  | leaves ht =>
    subst hr
    rw [exchanges_own] at hu ⊢
    constructor
    · rintro l p form u hl rfl
      exact cycle_leave_unfolds hl hu ht
    · rintro p rfl
      obtain ⟨_, hv, -⟩ := takeUp_unfolds hu ht trivial
      cases hv
  | again ht _ ih =>
    rw [exchanges_append, exchanges_own] at hu ⊢
    replace ih := ih hr fun x hx => hu x (List.mem_append_right _ hx)
    replace hu := fun x hx => hu x (List.mem_append_left _ hx)
    constructor
    · rintro l p form u hl rfl
      obtain ⟨v', rfl, rfl, hroot⟩ := cycle_again_unfolds hl hu ht
      obtain ⟨rest, rfl, hrest⟩ := ih.1 _ p form v' (.inl rfl) rfl
      exact hroot rest _ hrest
    · rintro p rfl
      obtain ⟨form, hv, hroot⟩ := takeUp_unfolds hu ht trivial
      cases hv
      obtain ⟨T, hv, hT⟩ := ih.1 _ p form _ (.inr ⟨rfl, rfl⟩) rfl
      exact ⟨T, hv, hroot T _ hT⟩
  | @enters t h l q i k r' r ht _ hk ihi ihk =>
    rw [exchanges_append, exchanges_own, exchanges_nested] at hu ⊢
    have hui : ∀ x ∈ exchanges i, x.Unstopped := fun x hx =>
      hu x (List.mem_append_right _ (List.mem_append_left _ hx))
    have huk : ∀ x ∈ exchanges k, x.Unstopped := fun x hx =>
      hu x (List.mem_append_right _ (List.mem_append_right _ hx))
    replace hu := fun x hx => hu x (List.mem_append_left _ hx)
    constructor
    · rintro l p form u hl rfl
      obtain ⟨rfl, hroot⟩ := cycle_enter_unfolds hl hu ht
      subst hr
      cases r' with
      | error e => exact absurd hk Course.not_ok_of_error
      | ok v' =>
        obtain ⟨inner, rfl, hinner⟩ := (ihi rfl hui).2 q rfl
        obtain ⟨rest, hv, hrest⟩ := (ihk rfl huk).1 _ p form _ (.inl rfl) rfl
        exact ⟨.nested q inner rest, hv, hroot inner _ rest _ hinner hrest⟩
    · rintro p rfl
      obtain ⟨_, hv, -⟩ := takeUp_unfolds hu ht trivial
      cases hv

/-- The requests that closing a program takes. -/
def Request.Closing : Request V E → Prop
  | .close .. | .handle _ | .handled => True
  | _ => False

omit [ValueLike V] in
lemma Level.close_comes {a : Option E} (hc : l.close.Comes h a) : ∀ x ∈ h, x.request.Closing := by
  obtain ⟨program, via | stage⟩ := l
  · obtain ⟨_, _, rfl, rfl, -⟩ := hc
    simp [Request.Closing]
  · have hlast : ∀ {h}, (Talk.ask (.close .sync program) .done).Comes h a →
        ∀ x ∈ h, x.request.Closing := by
      rintro _ ⟨_, _, rfl, rfl, -⟩
      simp [Request.Closing]
    cases stage with
    | waiting =>
      obtain ⟨h₁, a', h₂, rfl, ⟨_, _, rfl, hn⟩, hrest⟩ := (Talk.comes_bind _).1 hc
      obtain ⟨_, _, _, rfl, ⟨b, h₃, rfl, hclose⟩, _, _, rfl, rfl, -⟩ := (Talk.comes_bind _).1 hn
      obtain rfl : h₃ = [] := by
        cases b with
        | none => exact hclose.1
        | some e => exact hclose.1
      cases a' with
      | some e =>
        obtain ⟨rfl, -⟩ := hrest
        simp [Request.Closing]
      | none =>
        have := hlast hrest
        simpa [Request.Closing] using this
    | _ => exact hlast hc

omit [ErrorLike E] [ValueLike V] in
/-- Closing a program makes no lookup and no resumption, and asks for no stop. -/
lemma closing_silent (hh : ∀ x ∈ h, x.request.Closing) :
    History.lookups h = [] ∧ History.events h = [] ∧ ∀ x ∈ h, x.Unstopped := by
  refine ⟨List.filterMap_eq_nil_iff.2 ?_, List.filterMap_eq_nil_iff.2 ?_, ?_⟩
  all_goals
    rintro ⟨q, a⟩ hx
    have hq : q.Closing := hh _ hx
    cases q <;> first | rfl | trivial

/-! ### What a tree says -/

variable {T : Unfolding V}

lemma Unfolds.unstopped (hT : Unfolds m p form u T h) : ∀ x ∈ h, x.Unstopped := by
  induction hT with
  | ends value hclose =>
    have := (closing_silent (Level.close_comes hclose)).2.2
    simpa [ending, Exchange.Unstopped] using this
  | completes _ hclose =>
    have := (closing_silent (Level.close_comes hclose)).2.2
    simpa [completing, Exchange.Unstopped] using this
  | service _ _ ih => simpa [serving, Exchange.Unstopped] using ih
  | nested _ _ _ _ ihi ih =>
    simp only [List.forall_mem_append]
    exact ⟨by simp [nesting, Exchange.Unstopped],
      ⟨by simp [accepting, Exchange.Unstopped], ihi⟩, ih⟩
  | passes _ _ ih => simpa [passing, Exchange.Unstopped] using ih

lemma Evaluates.unstopped (hT : Evaluates m p T h) : ∀ x ∈ h, x.Unstopped := by
  obtain ⟨traits, form, i, rfl, -, hT⟩ := hT
  simpa [accepting, Exchange.Unstopped] using hT.unstopped

omit [ErrorLike E] [ValueLike V] in
lemma History.lookups_append (h h' : History V E) :
    History.lookups (h ++ h') = History.lookups h ++ History.lookups h' := List.filterMap_append

omit [ErrorLike E] [ValueLike V] in
lemma History.events_append (h h' : History V E) :
    History.events (h ++ h') = History.events h ++ History.events h' := List.filterMap_append

/-- The names that are looked up are those of the tokens. -/
lemma Unfolds.lookups (hT : Unfolds m p form u T h) : History.lookups h = T.names := by
  induction hT with
  | ends value hclose =>
    rw [History.lookups_append, (closing_silent (Level.close_comes hclose)).1]
    rfl
  | completes _ hclose =>
    rw [History.lookups_append, (closing_silent (Level.close_comes hclose)).1]
    rfl
  | service _ _ ih =>
    rw [History.lookups_append, ih]
    rfl
  | nested _ _ _ _ ihi ih =>
    rw [History.lookups_append, History.lookups_append, History.lookups_append, ihi, ih]
    rfl
  | passes _ _ ih =>
    rw [History.lookups_append, ih]
    rfl

/-- Resumptions and lookups come in the order of the tree. -/
lemma Unfolds.events (hT : Unfolds m p form u T h) : History.events h = T.events p u := by
  induction hT with
  | ends value hclose =>
    rw [History.events_append, (closing_silent (Level.close_comes hclose)).2.1]
    rfl
  | completes _ hclose =>
    rw [History.events_append, (closing_silent (Level.close_comes hclose)).2.1]
    rfl
  | service _ _ ih =>
    rw [History.events_append, ih]
    rfl
  | nested _ _ _ _ ihi ih =>
    rw [History.events_append, History.events_append, History.events_append, ihi, ih]
    rfl
  | passes _ _ ih =>
    rw [History.events_append, ih]
    rfl

/-- Every nested program is evaluated in one piece. -/
lemma Unfolds.inner (hT : Unfolds m p form u T h) {q : V} {U : Unfolding V}
    (hU : (q, U) ∈ T.inners) :
    ∃ before i after, h = before ++ (i ++ after) ∧ Evaluates m q U i := by
  have hwithin : ∀ (h₁ h₂ : History V E) {h : History V E},
      (∃ before i after, h = before ++ (i ++ after) ∧ Evaluates m q U i) →
      ∃ before i after, h₁ ++ h ++ h₂ = before ++ (i ++ after) ∧ Evaluates m q U i := by
    rintro h₁ h₂ _ ⟨before, i, after, rfl, hi⟩
    exact ⟨h₁ ++ before, i, after ++ h₂, by simp only [List.append_assoc], hi⟩
  induction hT with
  | ends | completes => cases hU
  | service _ _ ih => simpa using hwithin _ [] (ih hU)
  | passes _ _ ih => simpa using hwithin _ [] (ih hU)
  | @nested p form form' u q' traits traits' inner rest i h hkind hform hinner _ ihi ih =>
    rw [Unfolding.inners, List.mem_cons, List.mem_append] at hU
    obtain hU | hU | hU := hU
    · cases hU
      exact ⟨_, accepting _ traits' ++ i, h, rfl, traits', form', i, rfl, hform, hinner⟩
    · have := hwithin (nesting m p form u q' traits ++ accepting q' traits') h (ihi hU)
      simpa only [List.append_assoc] using this
    · have := hwithin (nesting m p form u q' traits ++ (accepting q' traits' ++ i)) []
        (ih hU)
      simpa only [List.append_assoc, List.append_nil] using this

/-- A tree that is read off is a call that returns. -/
lemma Unfolds.course (hT : Unfolds m p form u T h) {l : Level V} (hl : l.Awaits p form u) :
    ∃ k, exchanges k = h ∧ Course m (cycle m l (.send u)) k (.ok T.value) := by
  have hu := hT.unstopped
  induction hT generalizing l with
  | @ends _ _ _ value closing hclose =>
    refine ⟨_, exchanges_own _, .leaves ((cycle_comes hl ?_ hu).2 (.inl ?_))⟩
    · trivial
    · exact ⟨value, closing, rfl, rfl, hclose⟩
  | @completes _ _ _ completion value traits closing hkind hclose =>
    refine ⟨_, exchanges_own _, .leaves ((cycle_comes hl ?_ hu).2 (.inr (.inl ?_)))⟩
    · trivial
    · exact ⟨completion, value, traits, closing, hkind, rfl, rfl, hclose⟩
  | @service p form u token name found traits rest h hkind hrest ih =>
    obtain ⟨k, rfl, hk⟩ := ih (.inl rfl) hrest.unstopped
    replace hu := fun x hx => hu x (List.mem_append_left _ hx)
    refine ⟨_, ?_, .again ((cycle_comes hl ?_ hu).2 (.inr (.inr (.inl ?_)))) hk⟩
    · rw [exchanges_append, exchanges_own]
    · trivial
    · exact ⟨token, name, found, traits, hkind, rfl, rfl⟩
  | @passes p form u payload traits rest h hkind hrest ih =>
    obtain ⟨k, rfl, hk⟩ := ih (.inl rfl) hrest.unstopped
    replace hu := fun x hx => hu x (List.mem_append_left _ hx)
    refine ⟨_, ?_, .again ((cycle_comes hl ?_ hu).2 (.inr (.inr (.inr (.inr ?_))))) hk⟩
    · rw [exchanges_append, exchanges_own]
    · trivial
    · exact ⟨payload, traits, hkind, rfl, rfl⟩
  | @nested p form form' u q traits traits' inner rest i h hkind hform hinner hrest ihi ih =>
    obtain ⟨ki, rfl, hki⟩ := ihi (.inr ⟨rfl, rfl⟩) hinner.unstopped
    obtain ⟨k, rfl, hk⟩ := ih (.inl rfl) hrest.unstopped
    have hucall : ∀ x ∈ accepting (E := E) q traits', x.Unstopped := by
      simp [accepting, Exchange.Unstopped]
    replace hu := fun x hx => hu x (List.mem_append_left _ hx)
    have htake : (takeUp m q).Comes (accepting q traits')
        (.again (.opened q form') (.send ValueLike.nothing) : Verdict V E) :=
      (takeUp_comes (by exact trivial) hucall).2 ⟨traits', form', hform, rfl, rfl⟩
    refine ⟨_, ?_, .enters ((cycle_comes hl ?_ hu).2 (.inr (.inr (.inr (.inl ?_)))))
      (.again htake hki) hk⟩
    · simp only [exchanges_append, exchanges_own, exchanges_nested, List.append_assoc]
    · trivial
    · exact ⟨q, traits, hkind, rfl, rfl⟩

/-- A program is evaluated exactly if the call that takes it up returns and no stop is requested. -/
lemma evaluates_iff {v : V} : (∃ T, T.value = v ∧ Evaluates m p T h) ↔
    (∀ x ∈ h, x.Unstopped) ∧ (Run.start m p).Goes m h (.over (.ok v)) := by
  constructor
  · rintro ⟨T, rfl, hT⟩
    refine ⟨hT.unstopped, ?_⟩
    obtain ⟨traits, form, i, rfl, hform, hT⟩ := hT
    obtain ⟨k, rfl, hk⟩ := hT.course (.inr ⟨rfl, rfl⟩)
    have htake : (takeUp m p).Comes (accepting p traits)
        (.again (.opened p form) (.send ValueLike.nothing) : Verdict V E) :=
      (takeUp_comes (by exact trivial) (by simp [accepting, Exchange.Unstopped])).2
        ⟨traits, form, hform, rfl, rfl⟩
    exact .of_comes htake (hk.goes [])
  · rintro ⟨hu, hg⟩
    obtain ⟨k, rfl, hk⟩ := Run.Goes.course hg
    exact (hk.unfolds rfl hu).2 p rfl

end

/-! ### Depth-first resolution -/

section

variable [ValueLike V] [ErrorLike E] {σ : Type}

/-- No stop is ever requested. -/
def Host.Unstopped (host : Host V E σ) : Prop :=
  ∀ s, (host .barred s).1 = none ∧ (host .due s).1 = .goOn

omit [ValueLike V] [ErrorLike E] in
lemma Host.Unstopped.answers {host : Host V E σ} (hhost : host.Unstopped) {s s' : σ}
    {h : History V E} (hs : host.Answers s h s') : ∀ x ∈ h, x.Unstopped := by
  induction h generalizing s with
  | nil => exact fun x hx => nomatch hx
  | cons x h ih =>
    rw [List.forall_mem_cons]
    refine ⟨?_, ih hs.2⟩
    obtain ⟨q, a⟩ := x
    cases q with
    | barred => exact hs.1.trans (hhost s).1
    | due => exact hs.1.trans (hhost s).2
    | _ => trivial

/-- **Resolution is depth first.** While no stop is requested, a call returns a value exactly if the
program can be evaluated to it as a tree. In such an evaluation

* the names that are looked up are those of the tokens, those of a nested program where it was
  yielded;
* every payload is answered once, before anything else is looked up or resumed: a token by what was
  found, a nested program by the value it has come to, anything else by itself;
* each nested program, at any depth, comes to its value by itself as well, from the state in which
  the surroundings were when it was taken up. -/
theorem resolution_is_depth_first {host : Host V E σ} (hhost : host.Unstopped) (m : Manner) (p : V)
    (s s' : σ) :
    (∀ v, (∃ fuel, (Run.start m p).conduct m host fuel s = (some (.ok v), s')) ↔
      ∃ T h, T.value = v ∧ Evaluates m p T h ∧ host.Answers s h s') ∧
    ∀ T h, Evaluates m p T h → host.Answers s h s' →
      History.lookups h = T.names ∧ History.events h = T.events p ValueLike.nothing ∧
      ∀ q U, (q, U) ∈ T.inners → ∃ before i after s₁ s₂ fuel, h = before ++ (i ++ after) ∧
        host.Answers s before s₁ ∧ host.Answers s₁ i s₂ ∧ Evaluates m q U i ∧
        (Run.start m q).conduct m host fuel s₁ = (some (.ok U.value), s₂) := by
  constructor
  · intro v
    constructor
    · rintro ⟨fuel, hc⟩
      obtain ⟨h, hs, hg⟩ := Run.goes_of_conduct hc
      obtain ⟨T, hv, hT⟩ := evaluates_iff.2 ⟨hhost.answers hs, hg⟩
      exact ⟨T, h, hv, hT, hs⟩
    · rintro ⟨T, h, hv, hT, hs⟩
      exact Run.conduct_of_goes (evaluates_iff.1 ⟨T, hv, hT⟩).2 hs
  · intro T h hT hs
    obtain ⟨traits, form, i, rfl, hform, hT⟩ := hT
    refine ⟨?_, ?_, fun q U hU => ?_⟩
    · rw [History.lookups_append, hT.lookups]
      rfl
    · rw [History.events_append, hT.events]
      rfl
    · obtain ⟨before, j, after, rfl, hj⟩ := hT.inner hU
      rw [← List.append_assoc] at hs ⊢
      obtain ⟨s₁, h₁, hs⟩ := hs.split
      obtain ⟨s₂, h₂, -⟩ := hs.split
      obtain ⟨fuel, hc⟩ := Run.conduct_of_goes (evaluates_iff.1 ⟨U, rfl, hj⟩).2 h₂
      exact ⟨_, j, after, s₁, s₂, fuel, rfl, h₁, h₂, hj, hc⟩

end

/-! ### A nested program that asks for a service -/

section

open Script

/-- Surroundings that count resumptions and lookups. The program `0` yields the program `1`, which
yields the token `2`; what is found depends on the count. -/
def counting : Host Value Fault ℕ
  | .inspect (.object 2) .payload, n => (.ok ⟨true, false, false, false, false, false⟩, n)
  | .inspect _ _, n => (.ok synchronous, n)
  | .resume _ (.object 0) _, 0 => (.yields (.object 1), 1)
  | .resume _ (.object 1) (.send .none), n => (.yields (.object 2), n + 1)
  | .resume _ _ _, n => (.ends (.object n), n + 1)
  | .find _, n => (.found (.object n), n + 1)
  | .due, n => (.goOn, n)
  | .nameOf token, n => (.ok token, n)
  | .valueOf completion, n => (.ok completion, n)
  | .build .., n => (.ok .none, n)
  | .complain _, n => (.spent, n)
  | .handle _, n | .handled, n => ((), n)
  | .barred, n | .close .., n | .report _, n | .discard _, n => (none, n)

/-- The outer program comes to its value as a tree, in which one name is looked up. -/
theorem nested_service_is_evaluated : ∃ T h, T.value = .object 4 ∧
    Evaluates .blocking (.object 0) T h ∧ counting.Answers 0 h 5 ∧
    History.lookups h = T.names := by
  have hcounting : counting.Unstopped := fun s => ⟨rfl, rfl⟩
  obtain ⟨hvalue, htree⟩ := resolution_is_depth_first hcounting .blocking (.object 0) 0 5
  obtain ⟨T, h, hv, hT, hs⟩ := (hvalue (.object 4)).1 ⟨40, rfl⟩
  exact ⟨T, h, hv, hT, hs, (htree T h hT hs).1⟩

end

end Provision
