import Provision.Proofs.History

/-!
Monitors: watching a run from outside.

A monitor has a state of its own. It says which requests it allows in which state, and how its state
may have moved once a request was answered. It need not reckon with every answer, and what happens
while a request is being answered may move it as well. A talk keeps to a monitor if it puts no
request that is not allowed, whatever the answers are (`Talk.Keeps`); what it comes to is judged
together with the state in which the monitor is by then. From one talk of a run to the next the
monitor may turn to another state; that cannot be seen from the exchanges, so it must not matter for
those that follow.

* `Talk.keeps_bind`: two talks in turn keep to a monitor if the first one does and leads to where
  the second one does;
* `Run.Goes.keeps`: if every verdict that is approved leads to a run that keeps to the monitor
  again, then so does every later state of the run;
* `Run.Goes.allows`: every request in the history of such a run was allowed when it was put.
-/

namespace Provision

variable {V E S : Type}

/-- A watcher of runs. -/
structure Monitor (V E S : Type) where
  /-- Whether a request may be put. -/
  allows : S → Request V E → Prop
  /-- Whether an exchange may lead from one state to another. -/
  moves : S → Exchange V E → S → Prop
  /-- The state in which the next talk begins. -/
  turned : S → S
  turned_turned (s : S) : turned (turned s) = turned s
  moves_turned {s s' : S} {x : Exchange V E} :
    allows (turned s) x.request → moves s x s' → moves (turned s) x s'

/-- A history may lead a monitor from one state to another. -/
def Monitor.Watches (μ : Monitor V E S) : S → History V E → S → Prop
  | s, [], s' => s' = s
  | s, x :: h, s' => ∃ s₁, μ.moves s x s₁ ∧ μ.Watches s₁ h s'

namespace Monitor.Watches

variable {μ : Monitor V E S} {s s' s'' : S} {h h' : History V E}

lemma append (hs : μ.Watches s h s') (hs' : μ.Watches s' h' s'') : μ.Watches s (h ++ h') s'' := by
  induction h generalizing s with
  | nil =>
    obtain rfl := hs
    exact hs'
  | cons x h ih =>
    obtain ⟨s₁, hx, hs⟩ := hs
    exact ⟨s₁, hx, ih hs⟩

lemma split (hs : μ.Watches s (h ++ h') s'') : ∃ s', μ.Watches s h s' ∧ μ.Watches s' h' s'' := by
  induction h generalizing s with
  | nil => exact ⟨s, rfl, hs⟩
  | cons x h ih =>
    obtain ⟨s₁, hx, hs⟩ := hs
    obtain ⟨s', h₁, h₂⟩ := ih hs
    exact ⟨s', ⟨s₁, hx, h₁⟩, h₂⟩

end Monitor.Watches

/-! ### Talks -/

namespace Talk

variable {α β : Type} {μ : Monitor V E S}

/-- A talk keeps to a monitor that starts in some state, and comes to something approved. -/
def Keeps (μ : Monitor V E S) (approved : S → α → Prop) : Talk V E α → S → Prop
  | .done a, s => approved s a
  | .ask r next, s => μ.allows s r ∧ ∀ a s', μ.moves s ⟨r, a⟩ s' → (next a).Keeps μ approved s'

@[simp]
lemma keeps_done {p : S → α → Prop} {a : α} {s : S} :
    (done a : Talk V E α).Keeps μ p s ↔ p s a := Iff.rfl

/-- Two talks in turn. -/
@[simp]
lemma keeps_bind {p : S → β → Prop} {f : α → Talk V E β} (t : Talk V E α) {s : S} :
    (t.bind f).Keeps μ p s ↔ t.Keeps μ (fun s a => (f a).Keeps μ p s) s := by
  induction t generalizing s with
  | done a => rfl
  | ask r next ih => exact and_congr_right fun _ => forall₃_congr fun a _ _ => ih a

/-- Whoever approves of more is kept to as well. -/
lemma Keeps.mono {p q : S → α → Prop} {t : Talk V E α} {s : S} (ht : t.Keeps μ p s)
    (hpq : ∀ s a, p s a → q s a) : t.Keeps μ q s := by
  induction t generalizing s with
  | done a => exact hpq s a ht
  | ask r next ih => exact ⟨ht.1, fun a s' hs => ih a (ht.2 a s' hs)⟩

/-- What every exchange preserves holds in the end as well. -/
lemma Keeps.and_of_moves {p : S → α → Prop} {R : S → Prop}
    (hR : ∀ s x s', μ.moves s x s' → R s → R s') {t : Talk V E α} {s : S} (ht : t.Keeps μ p s)
    (hs : R s) : t.Keeps μ (fun s a => p s a ∧ R s) s := by
  induction t generalizing s with
  | done a => exact ⟨ht, hs⟩
  | ask r next ih => exact ⟨ht.1, fun a s' hm => ih a (ht.2 a s' hm) (hR s _ s' hm hs)⟩

/-- What a talk that keeps to a monitor comes to is approved. -/
lemma Keeps.comes {p : S → α → Prop} {t : Talk V E α} {s s' : S} (ht : t.Keeps μ p s)
    {h : History V E} {a : α} (ha : t.Comes h a) (hs : μ.Watches s h s') : p s' a := by
  induction t generalizing s h with
  | done b =>
    obtain ⟨rfl, rfl⟩ := ha
    obtain rfl := hs
    exact ht
  | ask r next ih =>
    obtain ⟨b, h', rfl, hn⟩ := ha
    obtain ⟨s₁, hx, hs⟩ := hs
    exact ih b (ht.2 b s₁ hx) hn hs

end Talk

/-! ### Runs -/

/-- A run keeps to a monitor: its talk does, and comes to a verdict that is approved among the
levels that wait; or its result is approved. -/
def Run.Keeps (μ : Monitor V E S) (approved : S → List (Level V) → Verdict V E → Prop)
    (final : S → Except E V → Prop) : Run V E → S → Prop
  | .active waiting t, s => t.Keeps μ (fun s v => approved s waiting v) s
  | .over result, s => final s result

namespace Run.Goes

variable [ValueLike V] [ErrorLike E] {μ : Monitor V E S} {m : Manner}
  {approved : S → List (Level V) → Verdict V E → Prop} {final : S → Except E V → Prop}
  {r r' : Run V E} {h h' : History V E} {s s' : S}

/-- If approved verdicts lead to runs that keep to the monitor, it is kept to all along. -/
lemma keeps (hr : r.Goes m h r')
    (hv : ∀ s waiting v, approved s waiting v →
      (v.next m waiting).Keeps μ approved final (μ.turned s))
    (hw : μ.Watches s h s')
    (hs : r.Keeps μ approved final s ∨ r.Keeps μ approved final (μ.turned s)) :
    r'.Keeps μ approved final s' ∨ r'.Keeps μ approved final (μ.turned s') := by
  induction hr generalizing s with
  | here r =>
    obtain rfl := hw
    exact hs
  | decided _ ih =>
    refine ih hw (.inr ?_)
    obtain hs | hs := hs
    · exact hv _ _ _ hs
    · rw [← μ.turned_turned]
      exact hv _ _ _ hs
  | @answered waiting q next h r a _ ih =>
    obtain ⟨s₁, hx, hw⟩ := hw
    obtain hs | hs := hs
    · exact ih hw (.inl (hs.2 a s₁ hx))
    · exact ih hw (.inl (hs.2 a s₁ (μ.moves_turned hs.1 hx)))

/-- Every request was allowed when it was put. -/
lemma allows {x : Exchange V E} (hr : r.Goes m (h ++ x :: h') r')
    (hv : ∀ s waiting v, approved s waiting v →
      (v.next m waiting).Keeps μ approved final (μ.turned s))
    (hw : μ.Watches s h s')
    (hs : r.Keeps μ approved final s ∨ r.Keeps μ approved final (μ.turned s)) :
    μ.allows s' x.request ∨ μ.allows (μ.turned s') x.request := by
  obtain ⟨r₁, h₁, h₂⟩ := hr.split
  obtain ⟨waiting, next, hask, -⟩ := h₂.cons_inv
  have hat := h₁.append hask
  rw [List.append_nil] at hat
  exact (hat.keeps hv hw hs).imp And.left And.left

end Run.Goes

end Provision
