import Provision.Proofs.Declaration
import Provision.Proofs.Isolation
import Provision.Proofs.Rehearsal

/-!
Handing out: a plan that several clients use up together.

A sequence environment hands out the first item of what is left of its plan, to whoever asks for
it. All that can be done with it is to look names up, so whatever clients do, the inquiries one
after the other tell what was handed out and what is left.

* `Itinerary.lookup_hit` and `Itinerary.lookup_miss`: one lookup;
* `Itinerary.Accounts.handed`: what many lookups hand out, and what they leave;
* `Itinerary.Uses`: computations that do nothing with a sequence environment but look names up, with
  compositions, talks of the driver, runs and crowds of runs among them;
* `Itinerary.guarded_eq`: the ways out of a block that is to use the plan up;
* `plan_is_handed_out_once`: all of this about one sequence environment.
-/

namespace Provision

variable {ι C V E α β σ τ : Type}

/-! ### A plan in a store of lists -/

/-- A sequence environment: the lists of a store, and the place of the one that is left of the
plan. -/
structure Holder (ι : Type) where
  lists : List (List ι)
  place : ℕ

namespace Holder

/-- What is left of the plan. -/
def left (h : Holder ι) : List ι := h.lists[h.place]?.getD []

/-- Whether all of the plan was handed out. -/
def consumed (h : Holder ι) : Bool := h.left.isEmpty

/-- What is left but the first item, in a new list. -/
def drop (h : Holder ι) : Holder ι := ⟨h.lists ++ [h.left.tail], h.lists.length⟩

@[simp]
lemma left_drop (h : Holder ι) : h.drop.left = h.left.tail := by simp [left, drop]

/-- The lists that there were before stay as they are. -/
lemma lists_drop (h : Holder ι) {k : ℕ} (hk : k < h.lists.length) :
    h.drop.lists[k]? = h.lists[k]? :=
  List.getElem?_append_left hk

lemma length_lists_drop (h : Holder ι) : h.lists.length ≤ h.drop.lists.length := by simp [drop]

end Holder

/-- What the items of a plan are for, and what is said of them. -/
structure Itinerary (ι V E : Type) extends Absence V E, Phrasing V E where
  named : ι → V
  gives : ι → V

/-- Somebody looked a name up, and what it came to. -/
structure Inquiry (C V E : Type) where
  client : C
  name : V
  result : Except E V

/-- The name and the implementation that somebody was given. -/
def Inquiry.given : Inquiry C V E → Option (V × V)
  | ⟨_, name, .ok v⟩ => some (name, v)
  | ⟨_, _, .error _⟩ => none

/-- A sequence environment with the inquiries so far, and whatever else there is. -/
structure Counter (C ι V E τ : Type) where
  holder : Holder ι
  inquiries : List (Inquiry C V E)
  rest : τ

namespace Itinerary

variable [DecidableEq V] (p : Itinerary ι V E)

/-- Looks a name up in a sequence environment. -/
def lookup : Lookup (StateM (Holder ι)) V V E := fun name => do
  let first : StateM (Holder ι) (Option ι) := fun h => (h.left.head?, h)
  match ← takeNext first (fun item => pure (p.named item = name)) (fun h => ((), h.drop)) with
  | some item => pure (.ok (p.gives item))
  | none => pure (.error (p.missing name))

variable {p}

/-- The first item is handed out to whoever asks for it. -/
lemma lookup_hit {h : Holder ι} {item : ι} (hfirst : h.left.head? = some item) :
    p.lookup (p.named item) h = (.ok (p.gives item), h.drop) := by
  simp [lookup, takeNext, hfirst, take?, bind, StateT.bind, pure_apply]

/-- Whoever asks for anything else is told that there is no such name, and nothing is changed. -/
lemma lookup_miss {h : Holder ι} {name : V} (hfirst : h.left.head?.map p.named ≠ some name) :
    p.lookup name h = (.error (p.missing name), h) := by
  cases hleft : h.left.head? with
  | none => simp [lookup, takeNext, hleft, bind, StateT.bind, pure_apply]
  | some item =>
    have hne : ¬ p.named item = name := fun heq => hfirst (by simp [hleft, heq])
    simp [lookup, takeNext, hleft, take?, hne, bind, StateT.bind, pure_apply]

/-! ### Inquiries one after the other -/

variable (p) in
/-- The inquiries that lead from one state of a sequence environment to another. -/
inductive Accounts : Holder ι → List (Inquiry C V E) → Holder ι → Prop
  | nil (h : Holder ι) : Accounts h [] h
  | cons {h h' : Holder ι} {inquiries : List (Inquiry C V E)} (client : C) (name : V) :
    Accounts (p.lookup name h).2 inquiries h' →
    Accounts h (⟨client, name, (p.lookup name h).1⟩ :: inquiries) h'

section

variable {h h' h'' : Holder ι} {inquiries inquiries' : List (Inquiry C V E)}

lemma Accounts.append (ha : p.Accounts h inquiries h') (ha' : p.Accounts h' inquiries' h'') :
    p.Accounts h (inquiries ++ inquiries') h'' := by
  induction ha with
  | nil => exact ha'
  | cons client name _ ih => exact .cons client name (ih ha')

lemma Accounts.split (ha : p.Accounts h (inquiries ++ inquiries') h'') :
    ∃ h', p.Accounts h inquiries h' ∧ p.Accounts h' inquiries' h'' := by
  induction inquiries generalizing h with
  | nil => exact ⟨h, .nil h, ha⟩
  | cons q rest ih =>
    cases ha with
    | cons client name hrest =>
      obtain ⟨h', hfirst, hlast⟩ := ih hrest
      exact ⟨h', .cons client name hfirst, hlast⟩

/-- The items that are handed out are the first ones of the plan, in order. -/
lemma Accounts.handed (ha : p.Accounts h inquiries h') : ∃ handed,
    h.left = handed ++ h'.left ∧
      inquiries.filterMap Inquiry.given = handed.map fun item => (p.named item, p.gives item) := by
  induction ha with
  | nil h => exact ⟨[], rfl, rfl⟩
  | @cons h h' inquiries client name _ ih =>
    obtain ⟨handed, hleft, hgiven⟩ := ih
    by_cases hfirst : h.left.head?.map p.named = some name
    · obtain ⟨item, hitem, rfl⟩ := Option.map_eq_some_iff.1 hfirst
      rw [lookup_hit hitem] at hleft ⊢
      obtain ⟨rest, hrest⟩ := List.head?_eq_some_iff.1 hitem
      rw [Holder.left_drop, hrest, List.tail_cons] at hleft
      refine ⟨item :: handed, by rw [hrest, hleft, List.cons_append], ?_⟩
      rw [List.map_cons, ← hgiven]
      exact List.filterMap_cons_some rfl
    · rw [lookup_miss hfirst] at hleft ⊢
      refine ⟨handed, hleft, ?_⟩
      rw [List.filterMap_cons_none rfl, hgiven]

/-- No list that there was before is changed. -/
lemma Accounts.lists (ha : p.Accounts h inquiries h') {k : ℕ} (hk : k < h.lists.length) :
    h'.lists[k]? = h.lists[k]? := by
  induction ha with
  | nil => rfl
  | @cons h h' inquiries client name _ ih =>
    by_cases hfirst : h.left.head?.map p.named = some name
    · obtain ⟨item, hitem, rfl⟩ := Option.map_eq_some_iff.1 hfirst
      rw [lookup_hit hitem] at ih
      rw [ih (Nat.lt_of_lt_of_le hk h.length_lists_drop), h.lists_drop hk]
    · rw [lookup_miss hfirst] at ih
      exact ih hk

/-- What an inquiry comes to is told by the plan and by how many were given something before. -/
lemma Accounts.result {before after : List (Inquiry C V E)} {q : Inquiry C V E}
    (ha : p.Accounts h (before ++ q :: after) h') :
    let next := (h.left.drop (before.filterMap Inquiry.given).length).head?
    (∀ item, next = some item → p.named item = q.name → q.result = .ok (p.gives item)) ∧
      (next.map p.named ≠ some q.name → q.result = .error (p.missing q.name)) := by
  intro next
  obtain ⟨h₁, hbefore, hrest⟩ := ha.split
  obtain ⟨handed, hleft, hgiven⟩ := hbefore.handed
  have hnext : next = h₁.left.head? := by
    show (h.left.drop (before.filterMap Inquiry.given).length).head? = _
    rw [hgiven, List.length_map, hleft, List.drop_left]
  cases hrest with
  | cons client name _ =>
    refine ⟨fun item hitem hname => ?_, fun hmiss => ?_⟩
    · obtain rfl : p.named item = name := hname
      rw [lookup_hit (hnext ▸ hitem)]
    · rw [lookup_miss (hnext ▸ hmiss)]

end

/-! ### Whatever clients do -/

variable (p) in
/-- Looks a name up in the sequence environment, and puts the inquiry down. -/
def serve (client : C) : Lookup (StateM (Counter C ι V E τ)) V V E := fun name x =>
  let (result, holder) := p.lookup name x.holder
  (result, ⟨holder, x.inquiries ++ [⟨client, name, result⟩], x.rest⟩)

variable (p) in
/-- Computations that do nothing with the sequence environment but look names up in it. -/
inductive Uses : {α : Type} → StateM (Counter C ι V E τ) α → Prop
  | serve (client : C) (name : V) : Uses (p.serve client name)
  | elsewhere {α : Type} {c : StateM (Counter C ι V E τ) α} :
    (∀ x, (c x).2.holder = x.holder ∧ (c x).2.inquiries = x.inquiries) → Uses c
  | bind {α β : Type} {c : StateM (Counter C ι V E τ) α} {f : α → StateM (Counter C ι V E τ) β} :
    Uses c → (∀ a, Uses (f a)) → Uses (c >>= f)

section

variable {c : StateM (Counter C ι V E τ) α}

/-- The inquiries of a computation account for what it does with the sequence environment. -/
lemma Uses.accounts (hc : p.Uses c) (x : Counter C ι V E τ) : ∃ inquiries,
    (c x).2.inquiries = x.inquiries ++ inquiries ∧
      p.Accounts x.holder inquiries (c x).2.holder := by
  induction hc generalizing x with
  | serve client name => exact ⟨_, rfl, .cons client name (.nil _)⟩
  | elsewhere h =>
    obtain ⟨hholder, hinquiries⟩ := h x
    exact ⟨[], by rw [hinquiries, List.append_nil], hholder ▸ .nil _⟩
  | @bind α β c f _ _ ihc ihf =>
    obtain ⟨first, hfirst, haccounts⟩ := ihc x
    obtain ⟨second, hsecond, haccounts'⟩ := ihf (c x).1 (c x).2
    refine ⟨first ++ second, ?_, haccounts.append haccounts'⟩
    exact hsecond.trans (by rw [hfirst, List.append_assoc])

lemma Uses.pure (a : α) : p.Uses (pure a : StateM (Counter C ι V E τ) α) :=
  .elsewhere fun _ => ⟨rfl, rfl⟩

lemma Uses.map (hc : p.Uses c) (f : α → β) : p.Uses (f <$> c) :=
  .bind hc fun a => .pure (f a)

/-! ### Compositions -/

lemma Uses.firstPresent {asks : List (StateM (Counter C ι V E τ) (Finding V E))}
    (h : ∀ ask ∈ asks, p.Uses ask) : p.Uses (firstPresent asks) := by
  induction asks with
  | nil => exact .pure none
  | cons ask rest ih =>
    obtain ⟨hask, hrest⟩ := List.forall_mem_cons.1 h
    refine .bind hask fun finding => ?_
    cases finding with
    | absent said => exact ih hrest
    | found v => exact .pure _
    | failed e => exact .pure _

/-- A composition does nothing with a sequence environment that its layers do not do. -/
lemma Uses.compose {layers : List (Lookup (StateM (Counter C ι V E τ)) V V E)} (name : V)
    (h : ∀ layer ∈ layers, p.Uses (layer name)) : p.Uses (p.compose layers name) := by
  have hsearch : p.Uses
      (search (layers.map fun layer => Finding.ofResult (p.tells name) <$> layer name)) := by
    refine .firstPresent fun ask hask => ?_
    obtain ⟨layer, hlayer, rfl⟩ := List.mem_map.1 (List.mem_reverse.1 hask)
    exact (h layer hlayer).map _
  refine .bind hsearch fun result => ?_
  cases result with
  | none => exact .pure _
  | some result => exact .pure _

lemma Uses.layered {t : Layered (Lookup (StateM (Counter C ι V E τ)) V V E)} (name : V)
    (h : ∀ layer ∈ t.leaves, p.Uses (layer name)) : p.Uses (t.lookup p.toAbsence id name) := by
  induction t with
  | single layer => exact h layer (List.mem_singleton.2 rfl)
  | composed parts ih =>
    rw [Layered.lookup_composed]
    refine .compose name fun layer hlayer => ?_
    obtain ⟨part, hpart, rfl⟩ := List.mem_map.1 hlayer
    refine ih part hpart fun leaf hleaf => h leaf ?_
    rw [Layered.leaves_composed]
    exact List.mem_flatten.2 ⟨_, List.mem_map.2 ⟨part, hpart, rfl⟩, hleaf⟩

/-! ### Runs -/

section

variable {host : Host V E (Counter C ι V E τ)} (hhost : ∀ q, p.Uses (host q))
include hhost

/-- What the driver does with a sequence environment is what it asks for. -/
lemma Uses.answeredBy (t : Talk V E α) : p.Uses (t.answeredBy host) := by
  induction t with
  | done a => exact .pure a
  | ask q next ih => exact .bind (hhost q) ih

lemma Uses.consulting {environment : Lookup (StateM (Counter C ι V E τ)) V V E}
    (h : ∀ name, p.Uses (environment name)) (q : Request V E) :
    p.Uses (host.consulting p.toAbsence environment q) := by
  cases q with
  | find name => exact (h name).map _
  | _ => exact hhost _

variable [ValueLike V] [ErrorLike E] {m : Manner}

lemma Uses.conduct (fuel : ℕ) (run : Run V E) : p.Uses (run.conduct m host fuel) := by
  induction fuel generalizing run with
  | zero => exact .pure none
  | succ fuel ih =>
    match run with
    | .over result => exact .pure (some result)
    | .active waiting (.done v) => exact ih (v.next m waiting)
    | .active waiting (.ask q next) => exact .bind (hhost q) fun a => ih _

end

end

end Itinerary

/-! ### Runs side by side -/

/-- An attendant whose lookups are those of an environment for each run. -/
def Attendant.consulting (attend : Attendant V E C σ) (κ : Absence V E)
    (environment : C → Lookup (StateM σ) V V E) : Attendant V E C σ
  | i, .find name, s =>
    let x := environment i name s
    (some (Finding.ofResult (κ.tells name) x.1), x.2)
  | i, q, s => attend i q s

lemma History.findings_append (h h' : History V E) :
    History.findings (h ++ h') = h.findings ++ h'.findings := List.filterMap_append

/-- What the inquiries of a client tell it. -/
def Itinerary.told [DecidableEq C] (p : Itinerary ι V E) (client : C)
    (inquiries : List (Inquiry C V E)) : List (V × Finding V E) :=
  (inquiries.filter (·.client = client)).map fun q =>
    (q.name, Finding.ofResult (p.tells q.name) q.result)

namespace Itinerary

variable [DecidableEq V] {p : Itinerary ι V E} {attend : Attendant V E C (Counter C ι V E τ)}

lemma Uses.attended (hattend : ∀ i q, p.Uses (attend i q))
    {environment : C → Lookup (StateM (Counter C ι V E τ)) V V E}
    (h : ∀ i name, p.Uses (environment i name)) (i : C) (q : Request V E) :
    p.Uses (attend.consulting p.toAbsence environment i q) := by
  cases q with
  | find name => exact (h i name).map fun result => some (Finding.ofResult (p.tells name) result)
  | _ => exact hattend i _

section

variable [ValueLike V] [ErrorLike E] {m : Manner}

lemma Uses.turn (hattend : ∀ i q, p.Uses (attend i q)) (i : C) (party : Party V E) :
    p.Uses (party.turn m (attend i)) := by
  obtain ⟨⟨waiting, talk⟩ | result, history⟩ := party
  · cases talk with
    | done v => exact .pure _
    | ask q next =>
      let after (answer : Option q.Answer) : Party V E :=
        answer.elim ⟨.active waiting (.ask q next), history⟩ fun a =>
          ⟨.active waiting (next a), history ++ [⟨q, a⟩]⟩
      have hturn : Party.turn m (attend i) ⟨.active waiting (.ask q next), history⟩ =
          (after <$> attend i q : StateM (Counter C ι V E τ) (Party V E)) := by
        funext x
        simp only [map_apply, Party.turn]
        cases attend i q x with
        | mk answer x' => cases answer <;> rfl
      rw [hturn]
      exact .map (hattend i q) after
  · exact .pure _

variable [DecidableEq C] in
/-- Runs that have turns in some order do what the one that has its turn does. -/
lemma Uses.play (hattend : ∀ i q, p.Uses (attend i q)) (schedule : List C)
    (parties : C → Party V E) :
    p.Uses fun x : Counter C ι V E τ =>
      let crowd := (⟨parties, x⟩ : Crowd V E C (Counter C ι V E τ)).play m attend schedule
      (crowd.parties, crowd.state) := by
  induction schedule generalizing parties with
  | nil => exact .pure parties
  | cons i schedule ih =>
    exact .bind (Uses.turn hattend i (parties i)) fun party => ih (Function.update parties i party)

end

variable [DecidableEq C]

omit [DecidableEq V] in
lemma told_append (i : C) (first second : List (Inquiry C V E)) :
    p.told i (first ++ second) = p.told i first ++ p.told i second := by
  simp [told]

omit [DecidableEq V] in
lemma told_of_other {i j : C} (hij : i ≠ j) {inquiries : List (Inquiry C V E)}
    (h : ∀ q ∈ inquiries, q.client = i) : p.told j inquiries = [] := by
  have hnone : inquiries.filter (·.client = j) = [] :=
    List.filter_eq_nil_iff.2 fun q hq => by simp [h q hq, hij]
  rw [told, hnone, List.map_nil]

variable [ValueLike V] [ErrorLike E] {m : Manner}

/-- A turn tells a run what the inquiries of its turn tell. -/
lemma turn_told (hattend : ∀ i q x, (attend i q x).2.inquiries = x.inquiries) (i : C)
    (party : Party V E) (x : Counter C ι V E τ) :
    let y := party.turn m (attend.consulting p.toAbsence p.serve i) x
    ∃ inquiries, (∀ q ∈ inquiries, q.client = i) ∧ y.2.inquiries = x.inquiries ++ inquiries ∧
      y.1.history.findings = party.history.findings ++ p.told i inquiries := by
  intro y
  have hidle (h : y.2.inquiries = x.inquiries)
      (h' : y.1.history.findings = party.history.findings) :
      ∃ inquiries, (∀ q ∈ inquiries, q.client = i) ∧ y.2.inquiries = x.inquiries ++ inquiries ∧
        y.1.history.findings = party.history.findings ++ p.told i inquiries :=
    ⟨[], by simp, by simpa using h, by simpa [told] using h'⟩
  obtain ⟨⟨waiting, talk⟩ | result, history⟩ := party
  · cases talk with
    | done v => exact hidle rfl rfl
    | ask q next =>
      by_cases hq : ∀ name, q ≠ .find name
      · have hconsult : attend.consulting p.toAbsence p.serve i q x = attend i q x := by
          cases q with
          | find name => exact absurd rfl (hq name)
          | _ => rfl
        have hinquiries := hattend i q x
        obtain ⟨answer, x', hanswer⟩ : ∃ answer x', attend i q x = (answer, x') := ⟨_, _, rfl⟩
        rw [hanswer] at hconsult hinquiries
        cases answer with
        | none =>
          exact hidle (by simpa [y, Party.turn, hconsult] using hinquiries)
            (by simp [y, Party.turn, hconsult])
        | some a =>
          have hnothing : History.findings [(⟨q, a⟩ : Exchange V E)] = [] :=
            History.findings_other hq a []
          refine hidle (by simpa [y, Party.turn, hconsult] using hinquiries) ?_
          simp only [y, Party.turn, hconsult]
          rw [History.findings_append, hnothing, List.append_nil]
      · obtain ⟨name, hname⟩ := not_forall.1 hq
        obtain rfl := not_not.1 hname
        refine ⟨[⟨i, name, (p.serve i name x).1⟩], by simp, rfl, ?_⟩
        exact (History.findings_append _ _).trans (by simp [told, History.findings])
  · exact hidle rfl rfl

/-- Runs that look names up in the sequence environment alone are told what they are given there. -/
lemma play_told (hattend : ∀ i q x, (attend i q x).2.inquiries = x.inquiries) (schedule : List C)
    {crowd : Crowd V E C (Counter C ι V E τ)}
    (h : ∀ i, (crowd.parties i).history.findings = p.told i crowd.state.inquiries) (i : C) :
    let crowd' := crowd.play m (attend.consulting p.toAbsence p.serve) schedule
    (crowd'.parties i).history.findings = p.told i crowd'.state.inquiries := by
  induction schedule generalizing crowd with
  | nil => exact h i
  | cons j schedule ih =>
    refine ih fun k => ?_
    obtain ⟨inquiries, hclient, hinquiries, hfindings⟩ :=
      turn_told (m := m) (p := p) hattend j (crowd.parties j) crowd.state
    show ((Function.update crowd.parties j _ k).history.findings) =
      p.told k ((crowd.parties j).turn m _ crowd.state).2.inquiries
    rw [hinquiries, told_append, ← h k]
    by_cases hk : k = j
    · subst hk
      rw [Function.update_self]
      exact hfindings
    · rw [Function.update_of_ne hk, told_of_other (Ne.symm hk) hclient, List.append_nil]

end Itinerary

/-! ### Blocks that are to use the plan up -/

/-- Errors that leave a generator. An end signal does not come out as itself, and the error that
does names it as its cause. -/
structure Leaving (E : Type) where
  isEnd : E → Bool
  /-- Whether two errors are one and the same. -/
  same : E → E → Bool
  stopped : E → E
  causedBy : E → E → Bool
  same_self (e : E) : same e e = true
  isEnd_stopped (e : E) : isEnd (stopped e) = false
  causedBy_stopped (e : E) : causedBy (stopped e) e = true

/-- The error that comes out. -/
def Leaving.out (l : Leaving E) (e : E) : E := if l.isEnd e then l.stopped e else e

/-- What becomes of an error that is told to a generator which does not catch it. -/
def Leaving.told (l : Leaving E) (e : E) : WayOut :=
  .told (l.isEnd (l.out e)) (l.same (l.out e) e) (l.isEnd e && l.causedBy (l.out e) e)

/-- An error comes out of the block as itself. -/
lemma Leaving.told_eq (l : Leaving E) (e : E) : l.told e = .itself := by
  cases he : l.isEnd e <;>
    simp [told, out, WayOut.told, he, l.same_self, l.isEnd_stopped, l.causedBy_stopped]

namespace Itinerary

section

variable (p : Itinerary ι V E)

/-- Checks that the plan was used up. -/
def unused : StateM (Counter C ι V E τ) (Option E) := fun x =>
  (if x.holder.consumed then none else some (p.leftover (x.holder.left.map p.named)), x)

/-- The outcome of a block that is to use the plan up. Its guard is a generator that gives way once,
catches nothing there, and then checks; there is no outcome if the guard suppresses an error. -/
def guarded (l : Leaving E) (block : StateM (Counter C ι V E τ) (Except E α)) :
    StateM (Counter C ι V E τ) (Option (Except E α)) := do
  match ← block with
  | .ok a => some <$> conclude p.unused (.ok a)
  | .error e => return match l.told e with
    | .suppressed => none
    | .itself => some (.error e)
    | .replaced => some (.error (l.out e))

end

variable {p : Itinerary ι V E}

/-- A block fails with its own error, or else with the names that are left. -/
lemma guarded_eq (l : Leaving E)
    (block : StateM (Counter C ι V E τ) (Except E α)) (x : Counter C ι V E τ) :
    p.guarded l block x = (some <| match (block x).1 with
      | .error e => .error e
      | .ok a => if (block x).2.holder.consumed then .ok a
        else .error (p.assertion (remainder ((block x).2.holder.left.map fun item =>
          p.text (p.named item)))), (block x).2) := by
  obtain ⟨result, y, hy⟩ : ∃ result y, block x = (result, y) := ⟨_, _, rfl⟩
  rw [hy]
  cases result with
  | error e => simp [guarded, hy, l.told_eq, bind, StateT.bind, pure_apply]
  | ok a =>
    cases hc : y.holder.consumed <;>
      simp [guarded, hy, conclude, unused, hc, bind, StateT.bind, map_apply, pure_apply,
        Phrasing.leftover_eq, Function.comp_def]

end Itinerary

/-- **A plan is handed out once and in order.** Clients look names up in one sequence environment.

* A lookup succeeds exactly if it asks for the name of the first item that is left. Then this item
  is handed out and is left no longer. Otherwise there is the error that there is no such name, and
  nothing is changed.
* Whatever clients do, as long as all that they do with the sequence environment is to look names
  up, every item that is no longer left was given to the client of exactly one inquiry, and these
  are the first items of the plan, in order. What each inquiry came to is told by the plan and by
  the inquiries before it. All was used up exactly if all was given to somebody. No list that there
  was before is changed, so in particular the one that the plan was given as is not.
* Lookups in compositions of any depth are of this kind if those in their layers are. So is what the
  driver does, for one lookup, for the check of some tokens or for a whole run, and so are any
  number of runs that have turns in any order.
* Runs that have turns in any order and look names up in the sequence environment alone are told
  what their own inquiries came to.
* A block that is to use the plan up fails with the error that has the names of all that is left
  exactly if the block itself ends and something is left; an error of the block comes out as itself.
  Errors of other names are other errors. -/
theorem plan_is_handed_out_once [DecidableEq V] [DecidableEq C] [ValueLike V] [ErrorLike E]
    (p : Itinerary ι V E) :
    (∀ (h : Holder ι) (name : V),
      ((∃ v, (p.lookup name h).1 = .ok v) ↔ h.left.head?.map p.named = some name) ∧
        (∀ item rest, h.left = item :: rest → p.named item = name →
          (p.lookup name h).1 = .ok (p.gives item) ∧ (p.lookup name h).2.left = rest) ∧
        (h.left.head?.map p.named ≠ some name →
          p.lookup name h = (.error (p.missing name), h))) ∧
    (∀ (α : Type) (c : StateM (Counter C ι V E τ) α), p.Uses c → ∀ x,
      let y := (c x).2
      ∃ inquiries handed, y.inquiries = x.inquiries ++ inquiries ∧
        x.holder.left = handed ++ y.holder.left ∧
        inquiries.filterMap Inquiry.given =
          handed.map (fun item => (p.named item, p.gives item)) ∧
        (∀ before q after, inquiries = before ++ q :: after →
          let next := (x.holder.left.drop (before.filterMap Inquiry.given).length).head?
          (∀ item, next = some item → p.named item = q.name → q.result = .ok (p.gives item)) ∧
            (next.map p.named ≠ some q.name → q.result = .error (p.missing q.name))) ∧
        (y.holder.consumed = true ↔ handed = x.holder.left) ∧
        ∀ k < x.holder.lists.length, y.holder.lists[k]? = x.holder.lists[k]?) ∧
    (∀ (t : Layered (Lookup (StateM (Counter C ι V E τ)) V V E)) (name : V),
      (∀ layer ∈ t.leaves, p.Uses (layer name)) → p.Uses (t.lookup p.toAbsence id name)) ∧
    (∀ (host : Host V E (Counter C ι V E τ))
      (environment : Lookup (StateM (Counter C ι V E τ)) V V E),
      (∀ q, p.Uses (host q)) → (∀ name, p.Uses (environment name)) →
      let host' := host.consulting p.toAbsence environment
      (∀ name, p.Uses ((lookup name).answeredBy host')) ∧
        (∀ tokens, p.Uses ((require tokens).answeredBy host')) ∧
        ∀ m fuel program, p.Uses ((Run.start m program).conduct m host' fuel)) ∧
    (∀ (attend : Attendant V E C (Counter C ι V E τ))
      (environment : C → Lookup (StateM (Counter C ι V E τ)) V V E),
      (∀ i q, p.Uses (attend i q)) → (∀ i name, p.Uses (environment i name)) →
      ∀ m schedule parties, p.Uses fun x =>
        let crowd := (⟨parties, x⟩ : Crowd V E C (Counter C ι V E τ)).play m
          (attend.consulting p.toAbsence environment) schedule
        (crowd.parties, crowd.state)) ∧
    (∀ attend : Attendant V E C (Counter C ι V E τ),
      (∀ i q x, (attend i q x).2.inquiries = x.inquiries) →
      ∀ (m : Manner) (schedule : List C) (programs : C → V) (x : Counter C ι V E τ),
        x.inquiries = [] →
        let crowd := (Crowd.begun m programs x).play m
          (attend.consulting p.toAbsence p.serve) schedule
        ∀ i, (crowd.parties i).history.findings = p.told i crowd.state.inquiries) ∧
    (∀ (l : Leaving E) (α : Type) (block : StateM (Counter C ι V E τ) (Except E α))
      (x : Counter C ι V E τ),
      let y := block x
      (∀ e, y.1 = .error e → p.guarded l block x = (some (.error e), y.2)) ∧
        (∀ a, y.1 = .ok a → y.2.holder.left = [] →
          p.guarded l block x = (some (.ok a), y.2)) ∧
        ∀ a, y.1 = .ok a → y.2.holder.left ≠ [] →
          p.guarded l block x = (some (.error (p.assertion
            ("Not all services were requested: " ++ ("[" ++ ", ".intercalate
              ((y.2.holder.left.map fun item => p.text (p.named item)).map Text.quoted) ++ "]")))),
            y.2)) ∧
    Function.Injective fun names : List String => p.leftover (names.map p.nameOf) := by
  refine ⟨fun h name => ⟨?_, ?_, Itinerary.lookup_miss⟩, fun α c hc x => ?_,
    fun t name => .layered name, fun host environment hhost henv => ?_,
    fun attend environment hattend henv m => Itinerary.Uses.play (.attended hattend henv),
    fun attend hattend m schedule programs x hx => ?_, fun l α block x => ?_,
    p.leftover_injective⟩
  · constructor
    · rintro ⟨v, hv⟩
      by_contra hmiss
      rw [Itinerary.lookup_miss hmiss] at hv
      cases hv
    · intro hfirst
      obtain ⟨item, hitem, rfl⟩ := Option.map_eq_some_iff.1 hfirst
      exact ⟨_, congrArg Prod.fst (Itinerary.lookup_hit hitem)⟩
  · rintro item rest hleft rfl
    rw [Itinerary.lookup_hit (by rw [hleft]; rfl), Holder.left_drop, hleft]
    exact ⟨rfl, rfl⟩
  · obtain ⟨inquiries, hinquiries, haccounts⟩ := hc.accounts x
    obtain ⟨handed, hleft, hgiven⟩ := haccounts.handed
    refine ⟨inquiries, handed, hinquiries, hleft, hgiven, ?_, ?_, fun k => haccounts.lists⟩
    · rintro before q after rfl
      exact haccounts.result
    · rw [Holder.consumed, List.isEmpty_iff, hleft, List.self_eq_append_right]
  · have hconsulting := Itinerary.Uses.consulting hhost henv
    exact ⟨fun name => .answeredBy hconsulting _, fun tokens => .answeredBy hconsulting _,
      fun m fuel program => .conduct hconsulting fuel _⟩
  · have hbegun (i : C) : ((Crowd.begun m programs x).parties i).history.findings =
        p.told i (Crowd.begun (E := E) m programs x).state.inquiries := by
      show [] = p.told i x.inquiries
      rw [hx]
      rfl
    exact Itinerary.play_told hattend schedule hbegun
  · intro y
    have hguarded := Itinerary.guarded_eq (p := p) l block x
    refine ⟨fun e he => ?_, fun a ha hleft => ?_, fun a ha hleft => ?_⟩
    · rw [hguarded, show (block x).1 = .error e from he]
    · have hconsumed : (block x).2.holder.consumed = true := List.isEmpty_iff.2 hleft
      rw [hguarded, show (block x).1 = .ok a from ha]
      simp [hconsumed, y]
    · have hconsumed : (block x).2.holder.consumed = false := by
        rw [Holder.consumed, List.isEmpty_eq_false_iff]
        exact hleft
      unfold remainder at hguarded
      rw [hguarded, show (block x).1 = .ok a from ha]
      simp [hconsumed, y]

/-! ### Two clients of one plan -/

section

open Script

/-- Items are names with what is to be given for them. -/
def roster : Itinerary (Value × Value) Value Notice where
  toPhrasing := Notice.phrasing
  tells := Notice.isOf
  missing := .missing
  tells_missing _ := by simp [Notice.isOf]
  named := Prod.fst
  gives := Prod.snd

/-- What is caused by an end signal that leaves a generator. -/
def leavingNotice : Leaving Notice where
  isEnd e := ErrorLike.nature e = .ended
  same e e' := e = e'
  stopped _ := .signal .ordinary
  causedBy _ _ := true
  same_self _ := by simp
  isEnd_stopped _ := rfl
  causedBy_stopped _ := rfl

/-- The client `0` asks for what is not next and then for what is, and the client `1` asks for the
same name through a composition. -/
def errands : StateM (Counter ℕ (Value × Value) Value Notice Unit) (Except Notice Value) := do
  let _ ← roster.serve 0 (.text "Clock")
  let _ ← roster.serve 0 (.text "Logger")
  roster.compose [fun name => pure (.error (.missing name)), roster.serve 1] (.text "Logger")

lemma errands_use : roster.Uses errands := by
  refine .bind (.serve 0 _) fun _ => .bind (.serve 0 _) fun _ => .compose _ fun layer hlayer => ?_
  obtain rfl | hlayer := List.mem_cons.1 hlayer
  · exact .pure _
  · obtain rfl := List.mem_singleton.1 hlayer
    exact .serve 1 _

/-- The second client is given the second item, and a block of this fails with the names of the
others. -/
theorem second_client_is_given_second_item :
    let first : Value × Value := (.text "Logger", .int 7)
    let second : Value × Value := (.text "Logger", .int 8)
    let others : List (Value × Value) := [(.text "Clock", .int 9), (.text "Cache", .int 10)]
    let x : Counter ℕ (Value × Value) Value Notice Unit := ⟨⟨[first :: second :: others], 0⟩, [], ()⟩
    let y := errands x
    roster.Uses errands ∧ y.1 = .ok (.int 8) ∧ y.2.holder.left = others ∧
      (∃ inquiries, y.2.inquiries = inquiries ∧
        inquiries.filterMap Inquiry.given = [first, second]) ∧
      roster.guarded leavingNotice errands x =
        (some (.error (.assertion "Not all services were requested: ['Clock', 'Cache']")), y.2) := by
  intro first second others x y
  obtain ⟨-, hmany, -, -, -, -, hblock, -⟩ := plan_is_handed_out_once (τ := Unit) (C := ℕ) roster
  obtain ⟨inquiries, handed, hinquiries, hleft, hgiven, -⟩ := hmany _ errands errands_use x
  have hy : y.2.holder.left = others := rfl
  have hhanded : [first, second] ++ others = handed ++ others := hleft.trans (by rw [hy])
  obtain rfl : [first, second] = handed := List.append_cancel_right hhanded
  have htext : "Not all services were requested: " ++ ("[" ++ ", ".intercalate
      ((y.2.holder.left.map fun item => roster.text (roster.named item)).map Text.quoted) ++ "]") =
        "Not all services were requested: ['Clock', 'Cache']" := by
    rw [hy]
    decide +kernel
  obtain ⟨-, -, hremaining⟩ := hblock leavingNotice _ errands x
  have hguarded := hremaining (.int 8) rfl (List.cons_ne_nil _ _)
  refine ⟨errands_use, rfl, hy, ⟨inquiries, hinquiries, hgiven⟩, hguarded.trans ?_⟩
  rw [htext]
  rfl

end

end Provision
