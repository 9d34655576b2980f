import Provision.Proofs.Closing
import Provision.Proofs.Evaluation

/-!
Chronicles: what a run leaves in the log.

The records of a call nest as the calls themselves do. `Trace` is the grammar of what a call leaves
behind that returns: records of services and of values passed back, and between the record of a
nested program and what follows the whole trace of that program, up to the record that the program
itself has finished. What a failing call leaves is the beginning of such a trace (`Begun`), and a
warning after it if what failed first was the search for a service.

Every talk of a level leaves one step of a trace or breaks off (`cycle_chronicles`,
`takeUp_chronicles`), so a whole call, with all its nested calls, leaves a trace or the beginning of
one (`Course.chronicled`).

* `Request.Mute`: the requests by which nothing is looked up, said or built;
* `Intact` and `Broken`: what a part of a call leaves behind in which nothing fails, or which breaks
  off at its first failure;
* `log_is_a_nested_trace`: the log of any host that keeps one, for both drivers.
-/

namespace Provision

variable {V E : Type}

/-! ### Traces -/

/-- The forms in which a program is driven. -/
def Manner.Drives (m : Manner) (form : Form) : Prop := ∃ traits, m.accept traits = .ok form

lemma Manner.exists_drives (m : Manner) : ∃ form, m.Drives form := by
  cases m with
  | blocking => exact ⟨.direct .sync, ⟨false, false, true, false, false, false⟩, rfl⟩
  | cooperative => exact ⟨.direct .async, ⟨false, true, false, false, false, false⟩, rfl⟩

/-- The records of a call for a program that returns: any number of services, values passed back
and nested programs with their own traces, and then the record that this program has finished. -/
inductive Trace (m : Manner) : V → List (Report V) → Prop
  | finished (p : V) {form : Form} : m.Drives form → Trace m p [.finished m p form]
  | resolved {p : V} {rs : List (Report V)} (name : V) :
    Trace m p rs → Trace m p (.resolved name :: rs)
  | passing {p : V} {rs : List (Report V)} (payload : V) :
    Trace m p rs → Trace m p (.passing payload :: rs)
  | nested {p q : V} {inner rs : List (Report V)} :
    Trace m q inner → Trace m p rs → Trace m p (.nested m q :: (inner ++ rs))

/-- Records that may be put before those of a call for a program. -/
def Prolongs (m : Manner) (p : V) (rs : List (Report V)) : Prop :=
  ∀ rs', Trace m p rs' → Trace m p (rs ++ rs')

/-- The records of a call for a program that may still return. -/
def Begun (m : Manner) (p : V) (rs : List (Report V)) : Prop := ∃ rest, Trace m p (rs ++ rest)

/-- The services that records say were resolved, in order. -/
def resolutions (rs : List (Report V)) : List V :=
  rs.filterMap fun
    | .resolved name => some name
    | _ => none

lemma resolutions_append (rs rs' : List (Report V)) :
    resolutions (rs ++ rs') = resolutions rs ++ resolutions rs' := List.filterMap_append

section

variable {m : Manner} {p q : V} {rs rs' inner : List (Report V)}

lemma Trace.begun (h : Trace m p rs) : Begun m p rs := ⟨[], by rwa [List.append_nil]⟩

lemma Begun.nil (m : Manner) (p : V) : Begun m p [] := by
  obtain ⟨form, hform⟩ := m.exists_drives
  exact ⟨_, .finished p hform⟩

lemma Prolongs.nil (m : Manner) (p : V) : Prolongs m p [] := fun _ h => h

lemma Prolongs.resolved (m : Manner) (p name : V) : Prolongs m p [.resolved name] :=
  fun _ h => .resolved name h

lemma Prolongs.passing (m : Manner) (p payload : V) : Prolongs m p [.passing payload] :=
  fun _ h => .passing payload h

lemma Prolongs.nested (p : V) (hi : Trace m q inner) : Prolongs m p (.nested m q :: inner) :=
  fun _ h => .nested hi h

lemma Prolongs.append (h : Prolongs m p rs) (h' : Prolongs m p rs') : Prolongs m p (rs ++ rs') := by
  intro rest hrest
  rw [List.append_assoc]
  exact h _ (h' _ hrest)

lemma Prolongs.begun (h : Prolongs m p rs) (h' : Begun m p rs') : Begun m p (rs ++ rs') := by
  obtain ⟨rest, h'⟩ := h'
  refine ⟨rest, ?_⟩
  rw [List.append_assoc]
  exact h _ h'

/-- A nested program may still return, and the call may go on then. -/
lemma Begun.entered (hi : Begun m q inner) : Begun m p (.nested m q :: inner) := by
  obtain ⟨rest, hi⟩ := hi
  obtain ⟨rest', h⟩ := Begun.nil m p
  refine ⟨rest ++ rest', ?_⟩
  rw [List.cons_append, ← List.append_assoc]
  exact .nested hi h

/-- No call that returns has said of a service that it is not provided. -/
lemma Trace.notProvided_notMem (h : Trace m p rs) (name : V) : .notProvided name ∉ rs := by
  induction h with
  | finished => simp
  | resolved _ _ ih | passing _ _ ih => simpa using ih
  | nested _ _ ihi ih => simpa using ⟨ihi, ih⟩

lemma Begun.notProvided_notMem (h : Begun m p rs) (name : V) : .notProvided name ∉ rs := by
  obtain ⟨rest, h⟩ := h
  exact fun hmem => h.notProvided_notMem name (List.mem_append_left _ hmem)

end

/-! ### What a part of a call leaves behind -/

/-- A request by which nothing is looked up, put into the log or built, and no service is said to be
absent. -/
def Request.Mute : Request V E → Prop
  | .find _ | .report _ | .build .. | .complain (.notProvided _) => False
  | _ => True

/-- The name that was found in an exchange. -/
def Exchange.serves : Exchange V E → Option V
  | ⟨.find name, .found _⟩ => some name
  | _ => none

/-- The names that were looked up and found, in order. -/
def History.served (h : History V E) : List V := h.filterMap Exchange.serves

/-- What is still to be said once an exchange has failed. -/
def Exchange.warnings : Exchange V E → List (Report V)
  | ⟨.find name, .absent _⟩ => [.notProvided name]
  | _ => []

section

variable {h h' : History V E} {rs rs' : List (Report V)} {ns ns' : List V}

lemma History.records_append (h h' : History V E) :
    History.records (h ++ h') = History.records h ++ History.records h' := List.filterMap_append

lemma History.served_append (h h' : History V E) :
    History.served (h ++ h') = History.served h ++ History.served h' := List.filterMap_append

/-- Nothing is seen of a part of a call that is mute. -/
lemma History.of_mute (hh : ∀ x ∈ h, x.request.Mute) :
    History.records h = [] ∧ History.lookups h = [] ∧ History.served h = [] := by
  refine ⟨List.filterMap_eq_nil_iff.2 ?_, List.filterMap_eq_nil_iff.2 ?_,
    List.filterMap_eq_nil_iff.2 ?_⟩
  all_goals
    rintro ⟨q, a⟩ hx
    have hq : q.Mute := hh _ hx
    cases q <;> first | rfl | exact hq.elim

lemma Exchange.warnings_of_mute {x : Exchange V E} (hx : x.request.Mute) : x.warnings = [] := by
  obtain ⟨q, a⟩ := x
  cases q <;> first | rfl | exact hx.elim

/-- A warning is due exactly if a service is absent. -/
lemma Exchange.warnings_eq_iff {x : Exchange V E} {name : V} :
    x.warnings = [.notProvided name] ↔ ∃ said, x = ⟨.find name, .absent said⟩ := by
  constructor
  · intro hx
    obtain ⟨q, a⟩ := x
    cases q with
    | find n =>
      cases a with
      | absent said =>
        cases hx
        exact ⟨said, rfl⟩
      | found v => cases hx
      | failed e => cases hx
    | _ => cases hx
  · rintro ⟨said, rfl⟩
    rfl

lemma Exchange.warnings_eq_nil {x : Exchange V E} (hx : ∀ name, x.warnings ≠ [.notProvided name]) :
    x.warnings = [] := by
  obtain ⟨q, a⟩ := x
  cases q with
  | find name =>
    cases a with
    | absent said => exact absurd rfl (hx name)
    | found v => rfl
    | failed e => rfl
  | _ => rfl

variable [ErrorLike E] {m : Manner}

/-- Nothing fails in a part of a call, these are its records, and these names were looked up and
found. -/
structure Intact (m : Manner) (h : History V E) (rs : List (Report V)) (ns : List V) : Prop where
  unfailing : ∀ x ∈ h, x.fails m = false
  records : History.records h = rs
  lookups : History.lookups h = ns
  served : History.served h = ns

/-- A part of a call breaks off: until something fails these are its records, and afterwards there
is nothing but the warning that is due. Nothing needs to fail, since a closing signal that comes out
of closing breaks off as well. -/
def BreaksOff (m : Manner) (h : History V E) (rs : List (Report V)) : Prop :=
  ((∀ x ∈ h, x.fails m = false) ∧ History.records h = rs) ∨
    ∃ before x after, h = before ++ x :: after ∧ (∀ y ∈ before, y.fails m = false) ∧
      x.fails m = true ∧ History.records (before ++ [x]) = rs ∧ History.records after = x.warnings

/-- A part of a call that breaks off, with the names that were found in it. -/
structure Broken (m : Manner) (h : History V E) (rs : List (Report V)) (ns : List V) : Prop where
  served : History.served h = ns
  breaks : BreaksOff m h rs

/-- Either nothing fails, or something fails first. -/
lemma History.unfailing_or_fails (m : Manner) (h : History V E) : (∀ x ∈ h, x.fails m = false) ∨
    ∃ before x after, h = before ++ x :: after ∧ (∀ y ∈ before, y.fails m = false) ∧
      x.fails m = true := by
  induction h with
  | nil => exact .inl (List.forall_mem_nil _)
  | cons x h ih =>
    cases hx : x.fails m with
    | true => exact .inr ⟨[], x, h, rfl, List.forall_mem_nil _, hx⟩
    | false =>
      obtain hh | ⟨before, y, after, rfl, hb, hy⟩ := ih
      · exact .inl (List.forall_mem_cons.2 ⟨hx, hh⟩)
      · exact .inr ⟨x :: before, y, after, rfl, List.forall_mem_cons.2 ⟨hx, hb⟩, hy⟩

lemma Intact.append (hs : Intact m h rs ns) (hs' : Intact m h' rs' ns') :
    Intact m (h ++ h') (rs ++ rs') (ns ++ ns') where
  unfailing := List.forall_mem_append.2 ⟨hs.unfailing, hs'.unfailing⟩
  records := by rw [History.records_append, hs.records, hs'.records]
  lookups := by rw [History.lookups_append, hs.lookups, hs'.lookups]
  served := by rw [History.served_append, hs.served, hs'.served]

lemma Intact.of_mute (hh : ∀ x ∈ h, x.request.Mute) (hu : ∀ x ∈ h, x.fails m = false) :
    Intact m h [] [] := by
  obtain ⟨hr, hl, hs⟩ := History.of_mute hh
  exact ⟨hu, hr, hl, hs⟩

lemma Intact.single {x : Exchange V E} (hm : x.request.Mute) (hu : x.fails m = false) :
    Intact m [x] [] [] :=
  .of_mute (List.forall_mem_singleton.2 hm) (List.forall_mem_singleton.2 hu)

lemma Intact.report (r : Report V) : Intact m ([⟨.report r, none⟩] : History V E) [r] [] :=
  ⟨List.forall_mem_singleton.2 rfl, rfl, rfl, rfl⟩

/-- What breaks off after a part in which nothing fails breaks off as a whole. -/
lemma BreaksOff.after (hb : BreaksOff m h' rs') (hu : ∀ x ∈ h, x.fails m = false) :
    BreaksOff m (h ++ h') (History.records h ++ rs') := by
  obtain ⟨hu', hr⟩ | ⟨before, x, after, rfl, hu', hx, hr, ha⟩ := hb
  · exact .inl ⟨List.forall_mem_append.2 ⟨hu, hu'⟩, by rw [History.records_append, hr]⟩
  · refine .inr ⟨h ++ before, x, after, (List.append_assoc ..).symm,
      List.forall_mem_append.2 ⟨hu, hu'⟩, hx, ?_, ha⟩
    rw [List.append_assoc, History.records_append, hr]

lemma Intact.broken (hs : Intact m h rs ns) (hb : Broken m h' rs' ns') :
    Broken m (h ++ h') (rs ++ rs') (ns ++ ns') where
  served := by rw [History.served_append, hs.served, hb.served]
  breaks := hs.records ▸ hb.breaks.after hs.unfailing

lemma Broken.of_mute (hh : ∀ x ∈ h, x.request.Mute) : Broken m h [] [] := by
  obtain ⟨hr, -, hs⟩ := History.of_mute hh
  refine ⟨hs, ?_⟩
  obtain hu | ⟨before, x, after, rfl, hu, hx⟩ := History.unfailing_or_fails m h
  · exact .inl ⟨hu, hr⟩
  · rw [List.append_cons, List.forall_mem_append] at hh
    have hmute : x.request.Mute := hh.1 x (List.mem_append_right _ List.mem_cons_self)
    refine .inr ⟨before, x, after, rfl, hu, hx, (History.of_mute hh.1).1, ?_⟩
    rw [Exchange.warnings_of_mute hmute]
    exact (History.of_mute hh.2).1

/-- Once a call has broken off nothing more is seen of it. -/
lemma Broken.mute (hb : Broken m h rs ns) (hh : ∀ x ∈ h', x.request.Mute) :
    Broken m (h ++ h') rs ns := by
  obtain ⟨hr', -, hs'⟩ := History.of_mute hh
  refine ⟨by rw [History.served_append, hb.served, hs', List.append_nil], ?_⟩
  obtain ⟨hu, rfl⟩ | ⟨before, x, after, rfl, hu, hx, hr, ha⟩ := hb.breaks
  · have hafter := (Broken.of_mute (m := m) hh).breaks.after hu
    rwa [List.append_nil] at hafter
  · have hh' : before ++ x :: after ++ h' = before ++ x :: (after ++ h') := by
      rw [List.append_assoc, List.cons_append]
    refine .inr ⟨before, x, after ++ h', hh', hu, hx, hr, ?_⟩
    rw [History.records_append, ha, hr', List.append_nil]

end

/-! ### Every talk of a level -/

section

variable {h : History V E} {payload : V}

lemma Talk.Comes.handling {α : Type} {e : E} {t : Talk V E α} {a : α}
    (ht : (Talk.handling e t).Comes h a) :
    ∃ h', h = ⟨.handle e, ()⟩ :: (h' ++ [⟨.handled, ()⟩]) ∧ t.Comes h' a := by
  obtain ⟨_, _, rfl, ht⟩ := ht
  obtain ⟨h', _, _, rfl, ht, _, _, rfl, rfl, rfl⟩ := (Talk.comes_bind _).1 ht
  exact ⟨h', rfl, ht⟩

variable [ErrorLike E] {m : Manner}

/-- A name is found and nothing is said, or the lookup breaks off. -/
lemma lookup_chronicles {name : V} {a : Except E V} (hc : (lookup name).Comes h a) :
    (∃ v, a = .ok v ∧ Intact m h [] [name]) ∨ (∃ e, a = .error e) ∧ Broken m h [] [] := by
  obtain ⟨a, h, rfl, hn⟩ := hc
  cases a with
  | found v =>
    obtain ⟨rfl, rfl⟩ := hn
    have hfails : ∀ x ∈ ([⟨.find name, .found v⟩] : History V E), x.fails m = false :=
      List.forall_mem_singleton.2 rfl
    exact .inl ⟨v, rfl, hfails, rfl, rfl, rfl⟩
  | failed e =>
    obtain ⟨rfl, rfl⟩ := hn
    exact .inr ⟨⟨e, rfl⟩, rfl, .inr ⟨[], _, [], rfl, List.forall_mem_nil _, rfl, rfl, rfl⟩⟩
  | absent said =>
    right
    replace hn := hn.handling
    obtain ⟨_, rfl, a, _, rfl, hn⟩ := hn
    cases a with
    | some e =>
      obtain ⟨rfl, rfl⟩ := hn
      exact ⟨⟨e, rfl⟩, rfl, .inr ⟨[], _, _, rfl, List.forall_mem_nil _, rfl, rfl, rfl⟩⟩
    | none =>
      obtain ⟨e, _, rfl, rfl, rfl⟩ := hn
      exact ⟨⟨e, rfl⟩, rfl, .inr ⟨[], _, _, rfl, List.forall_mem_nil _, rfl, rfl, rfl⟩⟩

/-- What has become of a call, with what it has left behind up to a verdict. -/
def Verdict.Chronicled (m : Manner) (p : V) (h : History V E) : Verdict V E → Prop
  | .again l _ => l.program = p ∧ m.Drives l.form ∧
    ∃ rs, Prolongs m p rs ∧ Intact m h rs (resolutions rs)
  | .enter l q => l.program = p ∧ m.Drives l.form ∧
    ∃ rs, Prolongs m p rs ∧ Intact m h (rs ++ [.nested m q]) (resolutions rs)
  | .leave (.ok _) => ∃ rs, Trace m p rs ∧ Intact m h rs (resolutions rs)
  | .leave (.error _) => ∃ rs, Begun m p rs ∧ Broken m h rs (resolutions rs)

/-- Whatever a talk comes to, it leaves behind what it should. -/
def Talk.Chronicles (m : Manner) (p : V) (t : Talk V E (Verdict V E)) : Prop :=
  ∀ h v, t.Comes h v → v.Chronicled m p h

namespace Verdict.Chronicled

variable {p : V} {h' : History V E} {v : Verdict V E} {rs : List (Report V)}

/-- What comes before may be told first. -/
lemma after (hv : v.Chronicled m p h') (hrs : Prolongs m p rs)
    (hs : Intact m h rs (resolutions rs)) : v.Chronicled m p (h ++ h') := by
  cases v with
  | again l how =>
    obtain ⟨hp, hl, rs', hrs', hs'⟩ := hv
    refine ⟨hp, hl, rs ++ rs', hrs.append hrs', ?_⟩
    rw [resolutions_append]
    exact hs.append hs'
  | enter l q =>
    obtain ⟨hp, hl, rs', hrs', hs'⟩ := hv
    refine ⟨hp, hl, rs ++ rs', hrs.append hrs', ?_⟩
    rw [resolutions_append, List.append_assoc]
    exact hs.append hs'
  | leave r =>
    cases r with
    | ok w =>
      obtain ⟨rs', hrs', hs'⟩ := hv
      refine ⟨rs ++ rs', hrs _ hrs', ?_⟩
      rw [resolutions_append]
      exact hs.append hs'
    | error e =>
      obtain ⟨rs', hrs', hb⟩ := hv
      refine ⟨rs ++ rs', hrs.begun hrs', ?_⟩
      rw [resolutions_append]
      exact hs.broken hb

/-- An exchange that is mute and does not fail makes no difference. -/
lemma cons (hv : v.Chronicled m p h) {x : Exchange V E} (hm : x.request.Mute)
    (hx : x.fails m = false) : v.Chronicled m p (x :: h) :=
  hv.after (.nil m p) (.single hm hx)

lemma of_mute (hh : ∀ x ∈ h, x.request.Mute) {e : E} :
    (Verdict.leave (.error e)).Chronicled m p h :=
  ⟨[], .nil m p, .of_mute hh⟩

end Verdict.Chronicled

variable {l : Level V} {v : Verdict V E}

/-- Closing is mute. -/
lemma close_mute {a : Option E} (hc : l.close.Comes h a) : ∀ x ∈ h, x.request.Mute := by
  intro x hx
  have hq := Level.close_comes hc x hx
  obtain ⟨q, a⟩ := x
  cases q <;> trivial

/-- Nothing fails while a program is closed if nothing comes out. -/
lemma close_unfailing [LawfulErrorLike E] (hc : l.close.Comes h none) :
    ∀ x ∈ h, x.fails m = false := by
  obtain ⟨program, via | stage⟩ := l
  · obtain ⟨_, _, rfl, rfl, rfl⟩ := hc
    exact List.forall_mem_singleton.2 rfl
  · replace hc := (Talk.comes_bind _).1 hc
    obtain ⟨h₁, c, h₂, rfl, hc, hlast⟩ := hc
    cases c with
    | some e => cases hlast.2
    | none =>
      obtain ⟨_, _, rfl, rfl, rfl⟩ := hlast
      refine List.forall_mem_append.2 ⟨?_, List.forall_mem_singleton.2 rfl⟩
      obtain ⟨-, rfl, -⟩ | ⟨-, a, rfl, ha⟩ := Lifting.close_comes.1 hc
      · exact List.forall_mem_nil _
      · cases a with
        | none => simp [Exchange.fails, Request.refusesIn, Request.errorIn]
        | some e =>
          have he : ErrorLike.nature e = .closing := by
            by_contra he
            simp [leftover_cross, he] at ha
          simp [Exchange.fails, Request.refusesIn, Request.errorIn, he]

variable [LawfulErrorLike E]

/-- Leaving a level is mute. -/
lemma finish_mute {r : Except E V} (hc : (finish m l r).Comes h v) : (∀ x ∈ h, x.request.Mute) ∧
    ((∃ e, v = .leave (.error e)) ∨
      ∃ w, r = .ok w ∧ v = .leave (.ok w) ∧ ∀ x ∈ h, x.fails m = false) := by
  obtain ⟨h₁, a, h₂, rfl, hclose, hdone⟩ := (Talk.comes_bind _).1 hc
  have hmute : ∀ x ∈ h₁, x.request.Mute := by
    cases r with
    | ok w => exact close_mute hclose
    | error e =>
      replace hclose := Talk.Comes.handling hclose
      obtain ⟨h, rfl, hclose⟩ := hclose
      exact List.forall_mem_cons.2 ⟨trivial, List.forall_mem_append.2
        ⟨close_mute hclose, List.forall_mem_singleton.2 (by exact trivial)⟩⟩
  cases a with
  | some e =>
    obtain ⟨rfl, rfl⟩ := hdone
    rw [List.append_nil]
    exact ⟨hmute, .inl ⟨_, by rw [Manner.out_error]⟩⟩
  | none =>
    obtain ⟨rfl, rfl⟩ := hdone
    rw [List.append_nil]
    refine ⟨hmute, ?_⟩
    cases r with
    | ok w => exact .inr ⟨w, rfl, by cases m <;> rfl, close_unfailing hclose⟩
    | error e => exact .inl ⟨_, by rw [Manner.out_error]⟩

/-- A level that is left with an error is left at once. -/
lemma finish_error_mute {e : E} (hc : (finish m l (.error e)).Comes h v) :
    (∀ x ∈ h, x.request.Mute) ∧ ∃ e', v = .leave (.error e') := by
  obtain ⟨hmute, he | ⟨_, hr, -⟩⟩ := finish_mute hc
  · exact ⟨hmute, he⟩
  · cases hr

/-- A level that is left with an error after an exchange that is mute. -/
lemma finish_chronicled {e : E} {x : Exchange V E} {p : V} (hm : x.request.Mute)
    (hc : (finish m l (.error e)).Comes h v) : v.Chronicled m p (x :: h) := by
  obtain ⟨hmute, e', rfl⟩ := finish_error_mute hc
  exact .of_mute (List.forall_mem_cons.2 ⟨hm, hmute⟩)

/-- A record is put into the log, and if that fails the level is left. -/
lemma reporting_chronicles {r : Report V} {next : Talk V E (Verdict V E)}
    (hc : (reporting m l r next).Comes h v) :
    (∃ h', h = ⟨.report r, none⟩ :: h' ∧ next.Comes h' v) ∨
      (∃ e, v = .leave (.error e)) ∧ Broken m h [r] [] := by
  obtain ⟨a, h, rfl, hn⟩ := hc
  cases a with
  | none => exact .inl ⟨h, rfl, hn⟩
  | some e =>
    obtain ⟨hmute, he⟩ := finish_error_mute hn
    refine .inr ⟨he, ?_⟩
    have hbroken : Broken m [⟨.report r, some e⟩] [r] [] :=
      ⟨rfl, .inr ⟨[], _, [], rfl, List.forall_mem_nil _, rfl, rfl, rfl⟩⟩
    exact hbroken.mute hmute

/-- The end of a program is reported last. -/
lemma deliver_chronicles (hl : m.Drives l.form) {value : Talk V E (Except E V)}
    (hvalue : ∀ h a, value.Comes h a → (∀ x ∈ h, x.request.Mute) ∧
      ((∃ e, a = .error e) ∨ ∀ x ∈ h, x.fails m = false)) :
    (deliver m l value).Chronicles m l.program := by
  intro h v hc
  have htrace : Trace m l.program [.finished m l.program l.form] := .finished l.program hl
  obtain ⟨h, rfl, hn⟩ | ⟨⟨e, rfl⟩, hb⟩ := reporting_chronicles hc
  · have hreport := Intact.report (E := E) (m := m) (.finished m l.program l.form)
    obtain ⟨h₁, a, h₂, rfl, hv, hfinish⟩ := (Talk.comes_bind _).1 hn
    obtain ⟨hmute₁, ha⟩ := hvalue h₁ a hv
    obtain ⟨hmute₂, ⟨e, rfl⟩ | ⟨w, rfl, rfl, hu₂⟩⟩ := finish_mute hfinish
    · exact ⟨_, htrace.begun, hreport.broken (.of_mute (List.forall_mem_append.2 ⟨hmute₁, hmute₂⟩))⟩
    · have hu₁ : ∀ x ∈ h₁, x.fails m = false := ha.resolve_left fun ⟨e, he⟩ => by cases he
      exact ⟨_, htrace, hreport.append (.of_mute (List.forall_mem_append.2 ⟨hmute₁, hmute₂⟩)
        (List.forall_mem_append.2 ⟨hu₁, hu₂⟩))⟩
  · exact ⟨_, htrace.begun, hb⟩

lemma unlessDue_chronicles (hl : m.Drives l.form) {answer : Talk V E (Verdict V E)}
    (ha : answer.Chronicles m l.program) : (unlessDue m l answer).Chronicles m l.program := by
  rintro _ v ⟨a, h, rfl, hn⟩
  cases a with
  | goOn => exact (ha h v hn).cons trivial rfl
  | stop how =>
    obtain ⟨rfl, rfl⟩ := hn
    exact ⟨rfl, hl, [], .nil m _, .single trivial rfl⟩
  | failed e => exact finish_chronicled trivial hn

/-- What a payload is answered with. -/
lemma settle_chronicles (hl : m.Drives l.form) (payload : V) (kind : Kind) :
    (settle (E := E) m l payload kind).Chronicles m l.program := by
  cases kind with
  | completion =>
    refine deliver_chronicles hl ?_
    rintro _ r ⟨_, _, rfl, rfl, rfl⟩
    refine ⟨List.forall_mem_singleton.2 (by exact trivial), ?_⟩
    cases r with
    | error e => exact .inl ⟨e, rfl⟩
    | ok w => exact .inr (List.forall_mem_singleton.2 rfl)
  | nested =>
    refine unlessDue_chronicles hl fun h v hc => ?_
    obtain ⟨h, rfl, rfl, rfl⟩ | ⟨⟨e, rfl⟩, hb⟩ := reporting_chronicles hc
    · exact ⟨rfl, hl, [], .nil m _, .report _⟩
    · exact ⟨_, (Begun.nil m payload).entered, hb⟩
  | passthrough =>
    refine unlessDue_chronicles hl fun h v hc => ?_
    obtain ⟨h, rfl, rfl, rfl⟩ | ⟨⟨e, rfl⟩, hb⟩ := reporting_chronicles hc
    · exact ⟨rfl, hl, _, .passing m _ payload, .report _⟩
    · exact ⟨_, (Prolongs.passing m _ payload).begun (.nil m _), hb⟩
  | service =>
    refine unlessDue_chronicles hl ?_
    rintro _ v ⟨a, h, rfl, hn⟩
    cases a with
    | error e => exact finish_chronicled trivial hn
    | ok name =>
      refine Verdict.Chronicled.cons ?_ trivial rfl
      obtain ⟨h₁, a, h₂, rfl, hlookup, hnext⟩ := (Talk.comes_bind _).1 hn
      obtain ⟨w, rfl, hs⟩ | ⟨⟨e, rfl⟩, hb⟩ := lookup_chronicles hlookup
      · obtain ⟨h₂, rfl, rfl, rfl⟩ | ⟨⟨e, rfl⟩, hb⟩ := reporting_chronicles hnext
        · exact ⟨rfl, hl, _, .resolved m _ name, hs.append (.report _)⟩
        · exact ⟨_, (Prolongs.resolved m _ name).begun (.nil m _), hs.broken hb⟩
      · obtain ⟨hmute, e', rfl⟩ := finish_error_mute hnext
        exact ⟨[], .nil m _, hb.mute hmute⟩

omit [LawfulErrorLike E] in
/-- Reading a payload is mute, and it fails if the payload cannot be answered. -/
lemma classify_mute {a : Except E Kind} (hc : (classify payload).Comes h a) :
    (∀ x ∈ h, x.request.Mute) ∧ ((∃ e, a = .error e) ∨ ∀ x ∈ h, x.fails m = false) := by
  obtain ⟨a, h, rfl, hn⟩ := hc
  cases a with
  | error e =>
    obtain ⟨rfl, rfl⟩ := hn
    exact ⟨List.forall_mem_singleton.2 (by exact trivial), .inl ⟨e, rfl⟩⟩
  | ok traits =>
    cases hkind : traits.kind with
    | ok kind =>
      simp only [hkind] at hn
      obtain ⟨rfl, rfl⟩ := hn
      refine ⟨List.forall_mem_singleton.2 (by exact trivial), .inr ?_⟩
      simp [Exchange.fails, Request.refusesIn, Request.errorIn, hkind, Except.isOk, Except.toBool]
    | error why =>
      cases why with
      | uncalled =>
        simp only [hkind] at hn
        obtain ⟨e, _, rfl, rfl, rfl⟩ := hn
        exact ⟨by simp [Request.Mute], .inl ⟨e, rfl⟩⟩
      | coroutine =>
        simp only [hkind] at hn
        obtain ⟨b, h, rfl, hn⟩ := hn
        cases b with
        | some e =>
          obtain ⟨rfl, rfl⟩ := hn
          exact ⟨by simp [Request.Mute], .inl ⟨e, rfl⟩⟩
        | none =>
          obtain ⟨e, _, rfl, rfl, rfl⟩ := hn
          exact ⟨by simp [Request.Mute], .inl ⟨e, rfl⟩⟩

variable [ValueLike V] {how : Resumption V E}

/-- A response of a program, with what was exchanged to get it: nothing is looked up or said, and
nothing fails unless the response is an error. -/
def Response.Mute (m : Manner) (h : History V E) (o : Response V E) : Prop :=
  (∀ x ∈ h, x.request.Mute) ∧ ((∃ e, o = .raises e) ∨ ∀ x ∈ h, x.fails m = false)

omit [LawfulErrorLike E] [ValueLike V] in
lemma signal_mute {via : Protocol} {p : V} {s : Signal V E} {o : Response V E}
    (ho : ∀ e, s = .raises e → ∃ e', o = .raises e') :
    o.Mute m [⟨.resume via p how, s⟩] := by
  refine ⟨List.forall_mem_singleton.2 trivial, ?_⟩
  cases s with
  | raises e => exact .inl (ho e rfl)
  | yields payload => exact .inr (List.forall_mem_singleton.2 rfl)
  | ends value => exact .inr (List.forall_mem_singleton.2 rfl)

omit [LawfulErrorLike E] [ValueLike V] in
/-- An error is being handled while a program is asked for its response. -/
lemma Response.Mute.handling {e : E} {o : Response V E} (ho : o.Mute m h) :
    o.Mute m (⟨.handle e, ()⟩ :: (h ++ [⟨.handled, ()⟩])) := by
  refine ⟨List.forall_mem_cons.2 ⟨trivial, List.forall_mem_append.2
    ⟨ho.1, List.forall_mem_singleton.2 trivial⟩⟩, ho.2.imp_right fun hu => ?_⟩
  exact List.forall_mem_cons.2 ⟨rfl, List.forall_mem_append.2
    ⟨hu, List.forall_mem_singleton.2 rfl⟩⟩

omit [LawfulErrorLike E] in
lemma follow_mute {p : V} {o : Lifting.Stage × Lifting.Step V E}
    (hc : (Talk.ask (.resume .sync p how) fun s => .done (Lifting.follow s)).Comes h o) :
    o.2.response.Mute m h := by
  obtain ⟨s, _, rfl, rfl, rfl⟩ := hc
  refine signal_mute ?_
  rintro e rfl
  exact ⟨_, rfl⟩

omit [LawfulErrorLike E] in
lemma throwOn_mute {p : V} {e : E} {o : Lifting.Stage × Lifting.Step V E}
    (hc : (Lifting.throwOn p e).Comes h o) : o.2.response.Mute m h := by
  unfold Lifting.throwOn at hc
  split at hc
  · obtain ⟨rfl, rfl⟩ := hc
    exact ⟨List.forall_mem_nil _, .inl ⟨e, rfl⟩⟩
  · replace hc := hc.handling
    obtain ⟨_, rfl, _, _, rfl, rfl, rfl⟩ := hc
    exact .handling ⟨List.forall_mem_singleton.2 trivial, .inl ⟨_, rfl⟩⟩
  · replace hc := hc.handling
    obtain ⟨_, rfl, hc⟩ := hc
    exact (follow_mute hc).handling

omit [LawfulErrorLike E] in
lemma Lifting.resume_mute {p : V} {stage : Lifting.Stage} {o : Lifting.Stage × Lifting.Step V E}
    (hc : (Lifting.resume p stage how).Comes h o) : o.2.response.Mute m h := by
  have hdone : ∀ {o' : Lifting.Stage × Lifting.Step V E}, (Talk.done o').Comes h o →
      o.2.response.Mute m h := by
    rintro _ ⟨rfl, rfl⟩
    exact ⟨List.forall_mem_nil _, .inr (List.forall_mem_nil _)⟩
  cases stage with
  | unstarted =>
    cases how with
    | send v => exact follow_mute hc
    | throw e =>
      simp only [Lifting.resume] at hc
      split at hc <;> exact hdone hc
  | waiting =>
    cases how with
    | send v => exact follow_mute hc
    | throw e => exact throwOn_mute hc
  | delivering =>
    cases how with
    | send v => exact hdone hc
    | throw e =>
      simp only [Lifting.resume] at hc
      split at hc <;> exact hdone hc
  | finished => cases how <;> exact hdone hc

omit [LawfulErrorLike E] in
/-- A level that was resumed is of the same program in the same form. -/
lemma Level.resume_mute {o : Level V × Response V E} (hc : (l.resume how).Comes h o) :
    o.1.program = l.program ∧ o.1.form = l.form ∧ o.2.Mute m h := by
  obtain ⟨program, via | stage⟩ := l
  · obtain ⟨s, _, rfl, rfl, rfl⟩ := hc
    refine ⟨rfl, rfl, signal_mute ?_⟩
    rintro e rfl
    exact ⟨e, by cases via <;> rfl⟩
  · obtain ⟨h₁, o', h₂, rfl, hresume, rfl, rfl⟩ := (Talk.comes_bind _).1 hc
    rw [List.append_nil]
    exact ⟨rfl, rfl, Lifting.resume_mute hresume⟩

/-- One cycle of a level. -/
lemma cycle_chronicles (hl : m.Drives l.form) (how : Resumption V E) :
    (cycle m l how).Chronicles m l.program := by
  intro h v hc
  obtain ⟨h₁, ⟨l', o⟩, h₂, rfl, hresume, hn⟩ := (Talk.comes_bind _).1 hc
  obtain ⟨hp, hf, hmute, ho⟩ := Level.resume_mute (m := m) hresume
  have hp : l'.program = l.program := hp
  have hf : l'.form = l.form := hf
  rw [← hp]
  rw [← hf] at hl
  cases o with
  | raises e =>
    obtain ⟨hmute', e', rfl⟩ := finish_error_mute hn
    exact .of_mute (List.forall_mem_append.2 ⟨hmute, hmute'⟩)
  | ends value =>
    have hu : ∀ x ∈ h₁, x.fails m = false := ho.resolve_left fun ⟨e, he⟩ => by cases he
    refine Verdict.Chronicled.after ?_ (.nil m _) (.of_mute hmute hu)
    refine deliver_chronicles hl ?_ h₂ v hn
    rintro _ _ ⟨rfl, rfl⟩
    exact ⟨List.forall_mem_nil _, .inr (List.forall_mem_nil _)⟩
  | yields payload =>
    have hu : ∀ x ∈ h₁, x.fails m = false := ho.resolve_left fun ⟨e, he⟩ => by cases he
    refine Verdict.Chronicled.after ?_ (.nil m _) (.of_mute hmute hu)
    obtain ⟨h₃, a, h₄, rfl, hclassify, hsettle⟩ := (Talk.comes_bind _).1 hn
    obtain ⟨hmute₃, ha⟩ := classify_mute (m := m) hclassify
    cases a with
    | error e =>
      obtain ⟨hmute', e', rfl⟩ := finish_error_mute hsettle
      exact .of_mute (List.forall_mem_append.2 ⟨hmute₃, hmute'⟩)
    | ok kind =>
      have hu₃ : ∀ x ∈ h₃, x.fails m = false := ha.resolve_left fun ⟨e, he⟩ => by cases he
      exact (settle_chronicles hl payload kind h₄ v hsettle).after (.nil m _) (.of_mute hmute₃ hu₃)

/-- A program is taken up. -/
lemma takeUp_chronicles (p : V) : (takeUp (E := E) m p).Chronicles m p := by
  rintro _ v ⟨a, h, rfl, hn⟩
  cases a with
  | error e =>
    obtain ⟨rfl, rfl⟩ := hn
    rw [Manner.out_error]
    exact .of_mute (by simp [Request.Mute])
  | ok traits =>
    cases hform : m.accept traits with
    | error why =>
      simp only [hform] at hn
      obtain ⟨e, _, rfl, rfl, rfl⟩ := hn
      rw [Manner.out_error]
      exact .of_mute (by simp [Request.Mute])
    | ok form =>
      simp only [hform] at hn
      obtain ⟨a, h, rfl, hn⟩ := hn
      cases a with
      | some e =>
        obtain ⟨hmute, e', rfl⟩ := finish_error_mute hn
        exact .of_mute (by simpa [Request.Mute] using hmute)
      | none =>
        obtain ⟨rfl, rfl⟩ := hn
        refine Verdict.Chronicled.cons ?_ trivial ?_
        · refine ⟨Level.opened_program p form, ⟨traits, ?_⟩, [], .nil m p, .single trivial rfl⟩
          rw [Level.opened_form, hform]
        · simp [Exchange.fails, Request.refusesIn, Request.errorIn, hform, Except.isOk,
            Except.toBool]

/-! ### Every call -/

/-- A call that leaves a level with an error is mute. -/
lemma Course.finish_mute {e : E} {k : List (Passage V E)} {r : Except E V}
    (hc : Course m (finish m l (.error e)) k r) :
    (∀ x ∈ exchanges k, x.request.Mute) ∧ ∃ e', r = .error e' := by
  cases hc with
  | leaves ht =>
    obtain ⟨hmute, e', he⟩ := finish_error_mute ht
    cases he
    rw [exchanges_own]
    exact ⟨hmute, e', rfl⟩
  | again ht =>
    obtain ⟨-, _, he⟩ := finish_error_mute ht
    cases he
  | enters ht =>
    obtain ⟨-, _, he⟩ := finish_error_mute ht
    cases he

/-- A call leaves a trace behind if it returns, and the beginning of one if it fails. -/
lemma Course.chronicled {t : Talk V E (Verdict V E)} {k : List (Passage V E)} {r : Except E V}
    (hc : Course m t k r) {p : V} (ht : t.Chronicles m p) :
    (Verdict.leave r).Chronicled m p (exchanges k) := by
  induction hc generalizing p with
  | leaves hcomes =>
    rw [exchanges_own]
    exact ht _ _ hcomes
  | again hcomes _ ih =>
    obtain ⟨rfl, hl, rs, hrs, hs⟩ := ht _ _ hcomes
    rw [exchanges_append, exchanges_own]
    exact (ih (cycle_chronicles hl _)).after hrs hs
  | @enters t h l q i k r' r hcomes hi hk ihi ihk =>
    obtain ⟨rfl, hl, rs, hrs, hs⟩ := ht _ _ hcomes
    rw [exchanges_append, exchanges_own, exchanges_nested, ← List.append_assoc]
    cases r' with
    | ok v =>
      obtain ⟨inner, hinner, hsi⟩ := ihi (takeUp_chronicles q)
      refine (ihk (cycle_chronicles hl _)).after (hrs.append (.nested l.program hinner)) ?_
      have := hs.append hsi
      rw [List.append_assoc, ← resolutions_append] at this
      simpa [resolutions] using this
    | error e =>
      obtain ⟨inner, hinner, hbi⟩ := ihi (takeUp_chronicles q)
      obtain ⟨hmute, e', rfl⟩ := Course.finish_mute hk
      refine ⟨_, hrs.begun hinner.entered, ?_⟩
      have := (hs.broken hbi).mute hmute
      rw [List.append_assoc, ← resolutions_append] at this
      simpa [resolutions] using this

end

/-! ### The log -/

section

variable {σ : Type}

/-- A host that keeps a log: every record is put at its end, whether or not a text can be made of
it, and nothing else that is asked shows there. Only the records of one run are in this log, so it
does not matter what else is going on. -/
structure Host.Logs (host : Host V E σ) (log : σ → List (Report V)) : Prop where
  reports (r : Report V) (s : σ) : log (host (.report r) s).2 = log s ++ [r]
  others (q : Request V E) (s : σ) : (∀ r, q ≠ .report r) → log (host q s).2 = log s

lemma Host.Logs.answers {host : Host V E σ} {log : σ → List (Report V)} (hlog : host.Logs log)
    {s s' : σ} {h : History V E} (hs : host.Answers s h s') : log s' = log s ++ h.records := by
  induction h generalizing s with
  | nil =>
    obtain rfl := hs
    exact (List.append_nil _).symm
  | cons x h ih =>
    obtain ⟨q, a⟩ := x
    rw [ih hs.2]
    cases q with
    | report r =>
      rw [hlog.reports, List.append_assoc]
      rfl
    | _ =>
      rw [hlog.others _ s fun r hr => by cases hr]
      rfl

variable [ErrorLike E]

/-- What fails first is where a history is cut. -/
lemma first_failure_unique {m : Manner} {before before' after after' : History V E}
    {x x' : Exchange V E} (h : before ++ x :: after = before' ++ x' :: after')
    (hb : ∀ y ∈ before, y.fails m = false) (hx : x.fails m = true)
    (hb' : ∀ y ∈ before', y.fails m = false) (hx' : x'.fails m = true) :
    before' = before ∧ x' = x ∧ after' = after := by
  induction before generalizing before' with
  | nil =>
    cases before' with
    | nil =>
      cases h
      exact ⟨rfl, rfl, rfl⟩
    | cons y before' =>
      cases h
      rw [hb' _ List.mem_cons_self] at hx
      cases hx
  | cons y before ih =>
    rw [List.forall_mem_cons] at hb
    cases before' with
    | nil =>
      cases h
      rw [hb.1] at hx'
      cases hx'
    | cons y' before' =>
      rw [List.forall_mem_cons] at hb'
      obtain ⟨rfl, htail⟩ := List.cons.inj h
      obtain ⟨rfl, rfl, rfl⟩ := ih htail hb.2 hb'.2
      exact ⟨rfl, rfl, rfl⟩

/-- What a call leaves behind that fails: the beginning of a trace, with a service for every name
that was found, and then one warning exactly if what failed first was that there is no such service.
After the first failure nothing is said but this. -/
structure CutShort (m : Manner) (p : V) (h : History V E) (rs warnings : List (Report V)) :
    Prop where
  records : h.records = rs ++ warnings
  begun : Begun m p rs
  unwarned (name : V) : .notProvided name ∉ rs
  served : h.served = resolutions rs
  warns (name : V) : warnings = [.notProvided name] ↔
    ∃ said, h.find? (·.fails m) = some ⟨.find name, .absent said⟩
  silent : (∀ name, warnings ≠ [.notProvided name]) → warnings = []
  last (before after : History V E) (x : Exchange V E) : h = before ++ x :: after →
    (∀ y ∈ before, y.fails m = false) → x.fails m = true →
    History.records (before ++ [x]) = rs ∧ History.records after = warnings

/-- A call that breaks off is cut short. -/
lemma BreaksOff.cutShort {m : Manner} {p : V} {h : History V E} {rs : List (Report V)}
    (hb : BreaksOff m h rs) (hrs : Begun m p rs) (hs : h.served = resolutions rs) :
    ∃ warnings, CutShort m p h rs warnings := by
  obtain ⟨hu, hr⟩ | ⟨before, x, after, rfl, hu, hx, hr, ha⟩ := hb
  · have hnone : h.find? (·.fails m) = none := by simpa using hu
    refine ⟨[], by rw [hr, List.append_nil], hrs, hrs.notProvided_notMem, hs, ?_, by simp, ?_⟩
    · simp [hnone]
    · intro before after x hh _ hx
      rw [hu x (hh ▸ List.mem_append_right _ List.mem_cons_self)] at hx
      cases hx
  · have hfirst : (before ++ x :: after).find? (·.fails m) = some x := by
      rw [List.find?_append, List.find?_eq_none.2 (by simpa using hu), List.find?_cons_of_pos hx]
      rfl
    refine ⟨x.warnings, ?_, hrs, hrs.notProvided_notMem, hs, fun name => ?_,
      Exchange.warnings_eq_nil, ?_⟩
    · rw [List.append_cons, History.records_append, hr, ha]
    · rw [hfirst, Exchange.warnings_eq_iff]
      exact exists_congr fun said => Option.some_inj.symm
    · intro before' after' x' hh hu' hx'
      obtain ⟨rfl, rfl, rfl⟩ := first_failure_unique hh hu hx hu' hx'
      exact ⟨hr, ha⟩

/-- **The log of a run is a nested trace.** What a call puts into the log is

* if it returns, a trace of the program: the record of every nested program is followed by the trace
  of that program, which ends with the record that it has finished; a service is resolved once for
  every lookup, and the lookups are those that can be read off, in order;
* if it fails, the beginning of such a trace, cut short at the first failure, with one warning after
  it exactly if that was an absent service at whatever depth, and nothing else. -/
theorem log_is_a_nested_trace [ValueLike V] [LawfulErrorLike E] {host : Host V E σ}
    {log : σ → List (Report V)} (hlog : host.Logs log) {m : Manner} {p : V} {fuel : ℕ} {s s' : σ}
    {r : Except E V} (hc : (Run.start m p).conduct m host fuel s = (some r, s')) :
    ∃ h, (Run.start m p).Goes m h (.over r) ∧ host.Answers s h s' ∧ log s' = log s ++ h.records ∧
      (∀ v, r = .ok v → Trace m p h.records ∧ h.lookups = resolutions h.records ∧
        h.served = resolutions h.records) ∧
      ∀ e, r = .error e → ∃ rs warnings, CutShort m p h rs warnings := by
  obtain ⟨h, hs, hg⟩ := Run.goes_of_conduct hc
  refine ⟨h, hg, hs, hlog.answers hs, ?_⟩
  obtain ⟨k, rfl, hk⟩ := Run.Goes.course hg
  have hcall := hk.chronicled (takeUp_chronicles p)
  constructor
  · rintro v rfl
    obtain ⟨rs, hrs, hi⟩ := hcall
    rw [hi.records, hi.lookups, hi.served]
    exact ⟨hrs, rfl, rfl⟩
  · rintro e rfl
    obtain ⟨rs, hrs, hb⟩ := hcall
    exact ⟨rs, hb.breaks.cutShort hrs hb.served⟩

end

/-! ### A nested program that asks for a service that is not there -/

section

open Script

/-- The program `0` yields the program `1`, which yields the token `2`; no service is there. -/
def deserted : (q : Request Value Fault) → q.Answer
  | .inspect (.object 2) .payload => .ok ⟨true, false, false, false, false, false⟩
  | .inspect _ _ => .ok synchronous
  | .resume _ (.object 0) _ => .yields (.object 1)
  | .resume _ _ _ => .yields (.object 2)
  | .find _ => .absent .spent
  | .due => .goOn
  | .nameOf token => .ok token
  | .valueOf completion => .ok completion
  | .build .. => .ok .none
  | .complain _ => .spent
  | .handle _ | .handled => ()
  | .barred | .close .. | .report _ | .discard _ => none

/-- These surroundings with a log. -/
def desertedLog : Host Value Fault (List (Report Value)) :=
  fun q log => (deserted q, log ++ History.records [⟨q, deserted q⟩])

lemma desertedLog_logs : desertedLog.Logs id where
  reports _ _ := rfl
  others q log hq := by
    cases q with
    | report r => exact absurd rfl (hq r)
    | _ => exact List.append_nil log

/-- The nested program is in the log and then the warning, and nothing says that either program has
finished. -/
theorem absent_service_is_logged_last : desertedLog.Logs id ∧
    (Run.start .cooperative (.object 0)).conduct .cooperative desertedLog 40 [] =
      (some (.error .spent), [.nested .cooperative (.object 1), .notProvided (.object 2)]) ∧
    ∃ (h : History Value Fault) (rs warnings : List (Report Value)),
      CutShort .cooperative (.object 0) h rs warnings ∧
      rs ++ warnings = [.nested .cooperative (.object 1), .notProvided (.object 2)] := by
  have hc : (Run.start .cooperative (.object 0)).conduct .cooperative desertedLog 40 [] =
      (some (.error .spent), [.nested .cooperative (.object 1), .notProvided (.object 2)]) := rfl
  refine ⟨desertedLog_logs, hc, ?_⟩
  obtain ⟨h, -, -, hlog, -, herror⟩ := log_is_a_nested_trace desertedLog_logs hc
  obtain ⟨rs, warnings, hcut⟩ := herror _ rfl
  refine ⟨h, rs, warnings, hcut, ?_⟩
  rw [← hcut.records]
  exact hlog.symm

end

end Provision
