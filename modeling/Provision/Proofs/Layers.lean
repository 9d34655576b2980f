import Mathlib.Data.List.Induction
import Provision.Proofs.Echo

/-!
Layers: environments that are searched one after the other.

An environment is seen here as what a lookup in it does (`Lookup`): it may change whenever it is
asked, and it comes to an implementation or to an error. Whether an error says that there is no such
name is told by the error alone (`Absence`), so a composition that has no name says so in the way its
layers do, and whoever searches it cannot tell it from a single layer.

* `Absence.compose_eq_askedAlong`: the layers may be taken one at a time;
* `Absence.compose_iff`: what a composition comes to, and which of its places are asked, in order;
* `Layered.lookup_composed`: compositions of compositions are searched like the list of all their
  layers;
* `lookup_missing` and `lookup_present`: what the driver makes of a name that a composition does not
  have, and of one that it has;
* `composition_searches_faithfully`: all of this about one composition.
-/

namespace Provision

variable {V E ν σ α β : Type}

/-! ### Lookups -/

/-- An environment, as seen by whoever looks names up in it. -/
abbrev Lookup (m : Type → Type) (ν V E : Type) := ν → m (Except E V)

/-- Takes the first of what is left of a list. -/
def takeLeft : StateM (List α × σ) (Option α) := fun s => (s.1.head?, s.1.tail, s.2)

/-- Does something with the rest of a state. -/
def beside (c : StateM σ β) : StateM (α × σ) β := fun s => ((c s.2).1, s.1, (c s.2).2)

/-- The errors that say that there is no such name. -/
structure Absence (ν E : Type) where
  tells : ν → E → Bool
  /-- A new error that says so. -/
  missing : ν → E
  tells_missing (name : ν) : tells name (missing name) = true

namespace Absence

variable (κ : Absence ν E)

/-- A lookup came to an error that says that there is no such name. -/
def Absent (name : ν) (result : Except E V) : Prop :=
  ∃ e, result = .error e ∧ κ.tells name e = true

/-- Asks some layers in turn, the first of the list first. -/
def asked {m : Type → Type} [Monad m] (name : ν) (layers : List (Lookup m ν V E)) :
    m (Option (Except E V)) :=
  firstPresent (layers.map fun layer => Finding.ofResult (κ.tells name) <$> layer name)

/-- The environment that is composed of some layers. -/
def compose {m : Type → Type} [Monad m] (layers : List (Lookup m ν V E)) : Lookup m ν V E :=
  fun name => do
    match ← search (layers.map fun layer => Finding.ofResult (κ.tells name) <$> layer name) with
    | some result => pure result
    | none => pure (.error (κ.missing name))

/-- Some layers were asked in turn, and each of them said that there is no such name. -/
def AllAbsent (name : ν) : List (Lookup (StateM σ) ν V E) → σ → σ → Prop
  | [], s, s' => s' = s
  | layer :: rest, s, s' =>
    κ.Absent name (layer name s).1 ∧ AllAbsent name rest (layer name s).2 s'

section

variable {κ} {name : ν} {layer : Lookup (StateM σ) ν V E} {rest : List (Lookup (StateM σ) ν V E)}
  {s s' s'' : σ}

@[simp]
lemma absent_missing : κ.Absent name (.error (κ.missing name) : Except E V) :=
  ⟨_, rfl, κ.tells_missing name⟩

@[simp]
lemma not_absent_ok {v : V} : ¬ κ.Absent name (.ok v) := by
  rintro ⟨e, h, -⟩
  cases h

@[simp]
lemma absent_error {e : E} :
    κ.Absent name (.error e : Except E V) ↔ κ.tells name e = true := by
  constructor
  · rintro ⟨e', h, htells⟩
    cases h
    exact htells
  · exact fun h => ⟨e, rfl, h⟩

lemma allAbsent_append {layers layers' : List (Lookup (StateM σ) ν V E)} :
    κ.AllAbsent name (layers ++ layers') s s'' ↔
      ∃ s', κ.AllAbsent name layers s s' ∧ κ.AllAbsent name layers' s' s'' := by
  induction layers generalizing s with
  | nil =>
    constructor
    · exact fun h => ⟨s, rfl, h⟩
    · rintro ⟨s', rfl, h⟩
      exact h
  | cons layer layers ih =>
    simp only [List.cons_append, AllAbsent, ih]
    constructor
    · rintro ⟨ha, s', h, h'⟩
      exact ⟨s', ⟨ha, h⟩, h'⟩
    · rintro ⟨s', ⟨ha, h⟩, h'⟩
      exact ⟨ha, s', h, h'⟩

/-! ### One search -/

@[simp]
lemma asked_nil : κ.asked name ([] : List (Lookup (StateM σ) ν V E)) s = (none, s) := rfl

/-- A layer that does not have the name is passed over. -/
lemma asked_of_absent (ha : κ.Absent name (layer name s).1) :
    κ.asked name (layer :: rest) s = κ.asked name rest (layer name s).2 := by
  obtain ⟨e, he, htells⟩ := ha
  obtain ⟨result, s', hl⟩ : ∃ result s', layer name s = (result, s') := ⟨_, _, rfl⟩
  rw [hl] at he ⊢
  obtain rfl : result = .error e := he
  simp [asked, firstPresent, Finding.ofResult, hl, htells, bind, StateT.bind, map_apply]

/-- A layer that does anything else decides. -/
lemma asked_of_not_absent (ha : ¬ κ.Absent name (layer name s).1) :
    κ.asked name (layer :: rest) s = (some (layer name s).1, (layer name s).2) := by
  obtain ⟨result, s', hl⟩ : ∃ result s', layer name s = (result, s') := ⟨_, _, rfl⟩
  rw [hl] at ha ⊢
  cases result with
  | ok v =>
    simp [asked, firstPresent, Finding.ofResult, hl, bind, StateT.bind, pure_apply, map_apply]
  | error e =>
    rw [absent_error, Bool.not_eq_true] at ha
    simp [asked, firstPresent, Finding.ofResult, hl, ha, bind, StateT.bind, pure_apply, map_apply]

lemma asked_append {layers : List (Lookup (StateM σ) ν V E)} :
    κ.asked name (layers ++ rest) s =
      match κ.asked name layers s with
      | (some result, s') => (some result, s')
      | (none, s') => κ.asked name rest s' := by
  induction layers generalizing s with
  | nil => rfl
  | cons layer layers ih =>
    rw [List.cons_append]
    by_cases ha : κ.Absent name (layer name s).1
    · rw [asked_of_absent ha, asked_of_absent ha, ih]
    · rw [asked_of_not_absent ha, asked_of_not_absent ha]

lemma asked_of_allAbsent {layers : List (Lookup (StateM σ) ν V E)}
    (ha : κ.AllAbsent name layers s s') :
    κ.asked name (layers ++ rest) s = κ.asked name rest s' := by
  induction layers generalizing s with
  | nil =>
    obtain rfl := ha
    rfl
  | cons layer layers ih =>
    rw [List.cons_append, asked_of_absent ha.1]
    exact ih ha.2

/-- A composition asks its layers from the last one to the first. -/
lemma compose_eq (layers : List (Lookup (StateM σ) ν V E)) :
    κ.compose layers name s =
      match κ.asked name layers.reverse s with
      | (some result, s') => (result, s')
      | (none, s') => (.error (κ.missing name), s') := by
  obtain ⟨outcome, s', h⟩ : ∃ outcome s', κ.asked name layers.reverse s = (outcome, s') :=
    ⟨_, _, rfl⟩
  rw [h]
  rw [asked, List.map_reverse] at h
  simp only [compose, search, bind, StateT.bind, h]
  cases outcome <;> rfl

end

/-! ### One layer at a time -/

section

variable {κ : Absence ν E} {name : ν} {layer : Lookup (StateM σ) ν V E}
  {layers : List (Lookup (StateM σ) ν V E)} {s : σ}
  (spent : StateM (List (Lookup (StateM σ) ν V E) × σ) (Option (Except E V)))

/-- Asks the layers that are left, one after the other, in at most so many steps. -/
def askedAlong (κ : Absence ν E) (name : ν)
    (spent : StateM (List (Lookup (StateM σ) ν V E) × σ) (Option (Except E V))) :
    ℕ → StateM (List (Lookup (StateM σ) ν V E) × σ) (Option (Except E V)) :=
  searchAlong spent takeLeft fun layer => beside (Finding.ofResult (κ.tells name) <$> layer name)

lemma askedAlong_of_absent {fuel : ℕ} (ha : κ.Absent name (layer name s).1) :
    κ.askedAlong name spent (fuel + 1) (layer :: layers, s) =
      κ.askedAlong name spent fuel (layers, (layer name s).2) := by
  obtain ⟨e, he, htells⟩ := ha
  simp [askedAlong, searchAlong, through, takeLeft, beside, search, firstPresent, bind, StateT.bind,
    map_apply, pure_apply, Finding.ofResult, he, htells]

lemma askedAlong_of_not_absent {fuel : ℕ} (ha : ¬ κ.Absent name (layer name s).1) :
    κ.askedAlong name spent (fuel + 1) (layer :: layers, s) =
      (some (layer name s).1, layers, (layer name s).2) := by
  obtain ⟨result, s', hl⟩ : ∃ result s', layer name s = (result, s') := ⟨_, _, rfl⟩
  rw [hl] at ha ⊢
  cases result with
  | ok v =>
    simp [askedAlong, searchAlong, through, takeLeft, beside, search, firstPresent, bind,
      StateT.bind, map_apply, pure_apply, Finding.ofResult, hl]
  | error e =>
    rw [absent_error, Bool.not_eq_true] at ha
    simp [askedAlong, searchAlong, through, takeLeft, beside, search, firstPresent, bind,
      StateT.bind, map_apply, pure_apply, Finding.ofResult, hl, ha]

/-- With enough steps, this is asking all of them in turn. -/
lemma askedAlong_eq {fuel : ℕ} (hfuel : layers.length < fuel) :
    ∃ left, κ.askedAlong name spent fuel (layers, s) =
      ((κ.asked name layers s).1, left, (κ.asked name layers s).2) := by
  induction layers generalizing fuel s with
  | nil =>
    obtain ⟨fuel, rfl⟩ := Nat.exists_eq_succ_of_ne_zero (Nat.ne_of_gt hfuel)
    exact ⟨[], rfl⟩
  | cons layer layers ih =>
    obtain ⟨fuel, rfl⟩ := Nat.exists_eq_succ_of_ne_zero (Nat.ne_zero_of_lt hfuel)
    by_cases ha : κ.Absent name (layer name s).1
    · rw [askedAlong_of_absent spent ha, asked_of_absent ha]
      exact ih (Nat.lt_of_succ_lt_succ hfuel)
    · rw [askedAlong_of_not_absent spent ha, asked_of_not_absent ha]
      exact ⟨layers, rfl⟩

/-- **Layers can be taken one at a time.** A composition comes to what is found by whoever takes one
layer at a time, from the last to the first, and asks it when its turn comes. -/
theorem compose_eq_askedAlong {fuel : ℕ} (hfuel : layers.length < fuel) :
    let x := κ.askedAlong name spent fuel (layers.reverse, s)
    κ.compose layers name s = (x.1.getD (.error (κ.missing name)), x.2.2) := by
  intro x
  obtain ⟨left, h⟩ : ∃ left, x = ((κ.asked name layers.reverse s).1, left,
      (κ.asked name layers.reverse s).2) := askedAlong_eq spent (by simpa using hfuel)
  rw [h, compose_eq]
  obtain ⟨found, s', hs⟩ : ∃ found s', κ.asked name layers.reverse s = (found, s') := ⟨_, _, rfl⟩
  rw [hs]
  cases found <;> rfl

end

/-! ### The places that are asked -/

/-- A layer that leaves a note of its place whenever it is asked. -/
def noting (place : ℕ) (layer : Lookup (StateM σ) ν V E) : Lookup (StateM (σ × List ℕ)) ν V E :=
  fun name s => ((layer name s.1).1, (layer name s.1).2, s.2 ++ [place])

/-- Layers that leave notes of their places, counted from the given one. -/
def noted (first : ℕ) : List (Lookup (StateM σ) ν V E) → List (Lookup (StateM (σ × List ℕ)) ν V E)
  | [] => []
  | layer :: rest => noting first layer :: noted (first + 1) rest

/-- What the search of some layers comes to, and the places that are asked meanwhile. -/
inductive Settles (name : ν) (layers : List (Lookup (StateM σ) ν V E)) (s : σ) :
    Except E V → σ → List ℕ → Prop
  /-- All layers after this one said that there is no such name, and this one did not. -/
  | decided (before after : List (Lookup (StateM σ) ν V E)) (layer : Lookup (StateM σ) ν V E)
      {s₁ : σ} :
    layers = before ++ layer :: after → κ.AllAbsent name after.reverse s s₁ →
    ¬ κ.Absent name (layer name s₁).1 →
    Settles name layers s (layer name s₁).1 (layer name s₁).2
      (List.range' before.length (after.length + 1)).reverse
  | exhausted {s' : σ} : κ.AllAbsent name layers.reverse s s' →
    Settles name layers s (.error (κ.missing name)) s' (List.range layers.length).reverse

section

variable {κ} {name : ν} {layer : Lookup (StateM σ) ν V E}
  {layers rest : List (Lookup (StateM σ) ν V E)} {s s' s'' : σ} {result : Except E V}
  {places : List ℕ}

lemma noted_append (first : ℕ) :
    noted first (layers ++ rest) = noted first layers ++ noted (first + layers.length) rest := by
  induction layers generalizing first with
  | nil => rfl
  | cons layer layers ih =>
    simp only [List.cons_append, noted, ih, List.length_cons]
    congr 3
    omega

/-- Layers that say that there is no such name say so when they leave notes. -/
lemma AllAbsent.noted (first : ℕ) (notes : List ℕ) (ha : κ.AllAbsent name layers.reverse s s') :
    κ.AllAbsent name (Absence.noted first layers).reverse (s, notes)
      (s', notes ++ (List.range' first layers.length).reverse) := by
  induction layers generalizing first s' with
  | nil =>
    obtain rfl := ha
    simp [Absence.noted, AllAbsent]
  | cons layer layers ih =>
    rw [List.reverse_cons] at ha
    obtain ⟨s₁, hrest, hlayer, rfl⟩ := allAbsent_append.1 ha
    rw [Absence.noted, List.reverse_cons]
    refine allAbsent_append.2 ⟨_, ih (first + 1) hrest, hlayer, ?_⟩
    simp [noting, AllAbsent, List.range'_succ]

/-- The search of some layers comes to something. -/
lemma exists_settles (κ : Absence ν E) (name : ν) (layers : List (Lookup (StateM σ) ν V E))
    (s : σ) : ∃ result s' places, κ.Settles name layers s result s' places := by
  induction layers using List.reverseRecOn generalizing s with
  | nil => exact ⟨_, s, _, .exhausted rfl⟩
  | append_singleton layers layer ih =>
    by_cases ha : κ.Absent name (layer name s).1
    · obtain ⟨result, s', places, h⟩ := ih (layer name s).2
      have hlast {rest : List (Lookup (StateM σ) ν V E)} {s' : σ}
          (h : κ.AllAbsent name rest.reverse (layer name s).2 s') :
          κ.AllAbsent name (rest ++ [layer]).reverse s s' := by
        rw [List.reverse_append]
        exact ⟨ha, h⟩
      cases h with
      | decided before after decider heq h hdecides =>
        refine ⟨_, _, _, .decided before (after ++ [layer]) decider ?_ (hlast h) hdecides⟩
        rw [heq, List.append_assoc, List.cons_append]
      | exhausted h => exact ⟨_, _, _, .exhausted (hlast h)⟩
    · exact ⟨_, _, _, .decided layers [] layer rfl rfl ha⟩

/-- A composition comes to what the search of its layers comes to. -/
lemma Settles.compose (h : κ.Settles name layers s result s' places) :
    κ.compose layers name s = (result, s') := by
  rw [compose_eq]
  cases h with
  | decided before after layer heq ha hdecides =>
    rw [heq, List.reverse_append, List.reverse_cons, List.append_assoc, asked_of_allAbsent ha,
      List.singleton_append, asked_of_not_absent hdecides]
  | exhausted ha =>
    rw [← List.append_nil layers.reverse, asked_of_allAbsent ha, asked_nil]

/-- Layers that leave notes are searched in the same way. -/
lemma Settles.noted (h : κ.Settles name layers s result s' places) (notes : List ℕ) :
    κ.compose (Absence.noted 0 layers) name (s, notes) = (result, s', notes ++ places) := by
  rw [compose_eq]
  cases h with
  | @decided before after layer s₁ heq ha hdecides =>
    have hdecides (place : ℕ) (notes : List ℕ) :
        ¬ κ.Absent name (noting place layer name (s₁, notes)).1 := hdecides
    rw [heq, noted_append, Absence.noted, List.reverse_append, List.reverse_cons,
      List.append_assoc, asked_of_allAbsent (ha.noted _ notes), List.singleton_append,
      asked_of_not_absent (hdecides _ _)]
    simp [noting, List.range'_succ]
  | exhausted ha =>
    rw [← List.append_nil (Absence.noted 0 layers).reverse,
      asked_of_allAbsent (ha.noted 0 notes), asked_nil, List.range_eq_range']

/-- What a composition comes to, and which of its places are asked. -/
lemma compose_iff : κ.compose (noted 0 layers) name (s, []) = (result, s', places) ↔
    κ.Settles name layers s result s' places := by
  constructor
  · intro h
    obtain ⟨result₁, s₁, places₁, hsettles⟩ := κ.exists_settles name layers s
    have hnoted := hsettles.noted []
    rw [List.nil_append, h] at hnoted
    cases hnoted
    exact hsettles
  · exact fun h => h.noted []

end

end Absence

/-! ### Compositions of compositions -/

/-- Layers that may be composed of layers again. -/
inductive Layered (α : Type) where
  | single (a : α)
  | composed (parts : List (Layered α))

namespace Layered

mutual

/-- Puts something together from the single layers. -/
def fold (leaf : α → β) (node : List β → β) : Layered α → β
  | .single a => leaf a
  | .composed parts => node (foldAll leaf node parts)

/-- The same for each of some parts. -/
def foldAll (leaf : α → β) (node : List β → β) : List (Layered α) → List β
  | [] => []
  | part :: rest => fold leaf node part :: foldAll leaf node rest

end

section

variable (leaf : α → β) (node : List β → β)

lemma foldAll_eq (parts : List (Layered α)) :
    foldAll leaf node parts = parts.map (fold leaf node) := by
  induction parts with
  | nil => rfl
  | cons part rest ih => rw [foldAll, ih, List.map_cons]

@[simp]
lemma fold_single (a : α) : fold leaf node (.single a) = leaf a := rfl

@[simp]
lemma fold_composed (parts : List (Layered α)) :
    fold leaf node (.composed parts) = node (parts.map (fold leaf node)) := by
  rw [fold, foldAll_eq]

end

/-- What holds of single layers, and of a composition if it holds of its parts, holds of all. -/
@[induction_eliminator]
lemma ind {motive : Layered α → Prop} (single : ∀ a, motive (.single a))
    (composed : ∀ parts, (∀ part ∈ parts, motive part) → motive (.composed parts))
    (t : Layered α) : motive t :=
  @Layered.rec α motive (fun parts => ∀ part ∈ parts, motive part) single composed (by simp)
    (fun _ _ hpart hrest => List.forall_mem_cons.2 ⟨hpart, hrest⟩) t

/-- The single layers, in order. -/
def leaves : Layered α → List α := fold (fun a => [a]) List.flatten

/-- The environment that is composed in this way of the environments its layers are read as. -/
def lookup {m : Type → Type} [Monad m] (κ : Absence ν E) (read : α → Lookup m ν V E) :
    Layered α → Lookup m ν V E :=
  fold read κ.compose

lemma leaves_composed (parts : List (Layered α)) :
    (composed parts).leaves = (parts.map leaves).flatten :=
  fold_composed _ _ parts

lemma lookup_composed {m : Type → Type} [Monad m] (κ : Absence ν E) (read : α → Lookup m ν V E)
    (parts : List (Layered α)) :
    (composed parts).lookup κ read = κ.compose (parts.map (lookup κ read)) :=
  fold_composed _ _ parts

end Layered

section

variable {κ : Absence ν E} {name : ν} {layers rest : List (Lookup (StateM σ) ν V E)} {s : σ}

/-- Whoever asks a composition asks its layers. -/
lemma Absence.asked_compose :
    κ.asked name (κ.compose layers :: rest) s = κ.asked name (layers.reverse ++ rest) s := by
  obtain ⟨result, s', places, h⟩ := κ.exists_settles name layers s
  have hcompose := h.compose
  cases h with
  | decided before after layer heq ha hdecides =>
    rw [asked_of_not_absent (by rw [hcompose]; exact hdecides), hcompose, heq,
      List.reverse_append, List.reverse_cons]
    simp only [List.append_assoc]
    rw [asked_of_allAbsent ha, List.singleton_append, asked_of_not_absent hdecides]
  | exhausted ha =>
    rw [asked_of_absent (by rw [hcompose]; exact absent_missing), hcompose, asked_of_allAbsent ha]

namespace Layered

variable (read : α → Lookup (StateM σ) ν V E)

/-- The last part is asked first, and then those before it. -/
lemma asked_parts {parts : List (Layered α)}
    (hparts : ∀ part ∈ parts, ∀ rest s, κ.asked name (part.lookup κ read :: rest) s =
      κ.asked name ((part.leaves.map read).reverse ++ rest) s)
    (rest : List (Lookup (StateM σ) ν V E)) (s : σ) :
    κ.asked name ((parts.map (lookup κ read)).reverse ++ rest) s =
      κ.asked name (((parts.map leaves).flatten.map read).reverse ++ rest) s := by
  induction parts generalizing rest s with
  | nil => rfl
  | cons part parts ih =>
    obtain ⟨hpart, hparts⟩ := List.forall_mem_cons.1 hparts
    simp only [List.map_cons, List.reverse_cons, List.append_assoc, List.singleton_append,
      List.flatten_cons, List.map_append, List.reverse_append]
    rw [ih hparts, Absence.asked_append, Absence.asked_append]
    split
    next => rfl
    next => exact hpart _ _

/-- Whoever asks layers that are composed in some way asks the single layers. -/
lemma asked_lookup (t : Layered α) (rest : List (Lookup (StateM σ) ν V E)) (s : σ) :
    κ.asked name (t.lookup κ read :: rest) s =
      κ.asked name ((t.leaves.map read).reverse ++ rest) s := by
  induction t generalizing rest s with
  | single a => rfl
  | composed parts ih =>
    rw [lookup_composed, leaves_composed, Absence.asked_compose]
    exact asked_parts read ih rest s

/-- Compositions of compositions are searched like the list of all their layers. -/
lemma lookup_eq_compose (κ : Absence ν E) (parts : List (Layered α)) :
    (composed parts).lookup κ read = κ.compose ((composed parts).leaves.map read) := by
  funext name s
  have hparts : ∀ part ∈ parts, ∀ rest s, κ.asked name (part.lookup κ read :: rest) s =
      κ.asked name ((part.leaves.map read).reverse ++ rest) s :=
    fun part _ => part.asked_lookup read
  have hask := asked_parts read hparts [] s
  simp only [List.append_nil] at hask
  rw [lookup_composed, leaves_composed, Absence.compose_eq, Absence.compose_eq, hask]

end Layered

end

/-! ### What the driver makes of it -/

/-- A host whose lookups are those of an environment. -/
def Host.consulting (host : Host V E σ) (κ : Absence V E) (environment : Lookup (StateM σ) V V E) :
    Host V E σ
  | .find name, s =>
    let x := environment name s
    (Finding.ofResult (κ.tells name) x.1, x.2)
  | q, s => host q s

/-- A host that puts everything down goes through a talk exchange by exchange. -/
lemma Talk.answeredBy_recorded (host : Host V E σ) (q : Request V E) (next : q.Answer → Talk V E α)
    (s : σ) (h : History V E) :
    (Talk.ask q next).answeredBy host.recorded (s, h) =
      (next (host q s).1).answeredBy host.recorded
        ((host q s).2, h ++ [⟨q, (host q s).1⟩]) := rfl

section

variable {host : Host V E σ} {κ : Absence V E} {environment : Lookup (StateM σ) V V E} {name : V}
  {s : σ}

/-- A name that the environment does not have is reported once and complained about. -/
lemma lookup_missing (hlog : ∀ r s, (host (.report r) s).1 = none)
    (ha : κ.Absent name (environment name s).1) : ∃ t s' h,
    (lookup name).answeredBy (host.consulting κ environment).recorded (s, []) =
        (.error (host (.complain (.notProvided name)) t).1, s', h) ∧
      History.records h = [.notProvided name] := by
  obtain ⟨e, he, htells⟩ := ha
  have hfind : (host.consulting κ environment (.find name) s).1 = .absent e := by
    simp [Host.consulting, he, Finding.ofResult, htells]
  have hreport (t : σ) :
      (host.consulting κ environment (.report (.notProvided name)) t).1 = none := hlog _ t
  rw [lookup, Talk.answeredBy_recorded, hfind]
  simp only [Talk.handling, Talk.answeredBy_recorded, Talk.bind_ask, hreport, Talk.bind_done]
  exact ⟨_, _, _, rfl, rfl⟩

/-- Anything else that a lookup comes to is handed on, and nothing is reported. -/
lemma lookup_present (ha : ¬ κ.Absent name (environment name s).1) : ∃ h,
    (lookup name).answeredBy (host.consulting κ environment).recorded (s, []) =
        ((environment name s).1, (environment name s).2, h) ∧
      History.records h = [] := by
  cases hr : (environment name s).1 with
  | ok v =>
    have hfind : (host.consulting κ environment (.find name) s).1 = .found v := by
      simp [Host.consulting, hr, Finding.ofResult]
    rw [lookup, Talk.answeredBy_recorded, hfind]
    exact ⟨_, rfl, rfl⟩
  | error e =>
    rw [hr, Absence.absent_error, Bool.not_eq_true] at ha
    have hfind : (host.consulting κ environment (.find name) s).1 = .failed e := by
      simp [Host.consulting, hr, Finding.ofResult, ha]
    rw [lookup, Talk.answeredBy_recorded, hfind]
    exact ⟨_, rfl, rfl⟩

end

/-! ### Compositions -/

/-- **A composition is searched faithfully.** Its layers may be anything that answers to a name, and
they may change whenever they are asked.

* The layers are asked from the last place to the first, each at most once. If all say that there is
  no such name, a new error says so. Otherwise the first layer that does not say so decides: the
  composition comes to exactly what it came to, a value or its error, and no earlier place is asked.
  Nothing else is done, and leaving notes of the places makes no difference.
* Layers that are compositions again, to whatever depth, are searched like the list of all the single
  layers.
* The driver's lookup in a composition comes to the error that a service is not provided exactly if
  all layers say that there is no such name, given that none of them comes to such an error by itself
  and that records can be put into the log. It reports that once then, and otherwise it reports
  nothing and comes to what the composition comes to. -/
theorem composition_searches_faithfully (κ : Absence V E) (name : V) :
    (∀ (layers : List (Lookup (StateM σ) V V E)) (s : σ) (result : Except E V) (s' : σ)
      (places : List ℕ), κ.compose (Absence.noted 0 layers) name (s, []) = (result, s', places) ↔
        κ.Settles name layers s result s' places) ∧
    (∀ (layers : List (Lookup (StateM σ) V V E)) (s : σ) (result : Except E V) (s' : σ)
      (places : List ℕ), κ.Settles name layers s result s' places →
        κ.compose layers name s = (result, s')) ∧
    (∀ parts : List (Layered (Lookup (StateM σ) V V E)),
      (Layered.composed parts).lookup κ id = κ.compose (Layered.composed parts).leaves) ∧
    ∀ (host : Host V E σ) (layers : List (Lookup (StateM σ) V V E)) (lacks : E → Prop) (s : σ),
      (∀ r s, (host (.report r) s).1 = none) →
      (∀ s, lacks (host (.complain (.notProvided name)) s).1) →
      (∀ layer ∈ layers, ∀ s e, (layer name s).1 = .error e → ¬ lacks e) →
      let environment := κ.compose layers
      let x : Except E V × σ × History V E :=
        (lookup name).answeredBy (host.consulting κ environment).recorded (s, [])
      ((∃ e, x.1 = .error e ∧ lacks e) ↔ ∃ s', κ.AllAbsent name layers.reverse s s') ∧
      ((∃ s', κ.AllAbsent name layers.reverse s s') →
        History.records x.2.2 = [.notProvided name]) ∧
      (¬ (∃ s', κ.AllAbsent name layers.reverse s s') →
        (x.1, x.2.1) = environment name s ∧ History.records x.2.2 = []) := by
  refine ⟨fun _ _ _ _ _ => Absence.compose_iff, fun _ _ _ _ _ h => h.compose, fun parts => ?_, ?_⟩
  · rw [Layered.lookup_eq_compose, List.map_id]
  intro host layers lacks s hlog hmakes hothers environment x
  obtain ⟨result, s', places, hsettles⟩ := κ.exists_settles name layers s
  have hcompose : environment name s = (result, s') := hsettles.compose
  cases hsettles with
  | @decided before after layer s₁ heq ha hdecides =>
    have hnot : ¬ ∃ s', κ.AllAbsent name layers.reverse s s' := by
      rintro ⟨s', hall⟩
      have hmissing := hcompose.symm.trans (Absence.Settles.exhausted hall).compose
      rw [(Prod.mk.inj hmissing).1] at hdecides
      exact hdecides Absence.absent_missing
    obtain ⟨h, hx, hrecords⟩ : ∃ h, x = ((environment name s).1, (environment name s).2, h) ∧
        History.records h = [] :=
      lookup_present (by rw [hcompose]; exact hdecides)
    rw [hx]
    refine ⟨iff_of_false ?_ hnot, fun h => absurd h hnot, fun _ => ⟨rfl, hrecords⟩⟩
    rintro ⟨e, he, hlacks⟩
    rw [hcompose] at he
    exact hothers layer (by rw [heq]; simp) s₁ e he hlacks
  | exhausted ha =>
    obtain ⟨t, s'', h, hx, hrecords⟩ : ∃ t s'' h,
        x = (.error (host (.complain (.notProvided name)) t).1, s'', h) ∧
          History.records h = [.notProvided name] :=
      lookup_missing hlog (by rw [hcompose]; exact Absence.absent_missing)
    rw [hx]
    exact ⟨iff_of_true ⟨_, rfl, hmakes t⟩ ⟨_, ha⟩, fun _ => hrecords, fun h => absurd ⟨_, ha⟩ h⟩

section

/-- Missing keys by their names, and services that are not provided by theirs. -/
abbrev KeyOrService := String ⊕ String

/-- A missing key says that there is no such name if it is about this name. -/
def missingKeys : Absence String KeyOrService where
  tells name e := e = .inl name
  missing := .inl
  tells_missing name := by simp

/-- An environment that has one name, and counts how often it is asked. -/
def countedEntry (has value : String) : Lookup (StateM ℕ) String String KeyOrService :=
  fun name n => (if name = has then .ok value else .error (.inl name), n + 1)

lemma countedEntry_error {has value name : String} {n : ℕ} {e : KeyOrService}
    (h : (countedEntry has value name n).1 = .error e) : e = .inl name := by
  simp only [countedEntry] at h
  split at h
  · cases h
  · exact (Except.error.inj h).symm

/-- A host that makes the errors of services that are not provided. -/
def complaining : Host String KeyOrService ℕ
  | .complain (.notProvided name), n => (.inr name, n)
  | .complain _, n => (.inr "", n)
  | .inspect .., n => (.error (.inr ""), n)
  | .resume .., n => (.ends "", n)
  | .due, n => (.goOn, n)
  | .find name, n => (.found name, n)
  | .nameOf v, n | .valueOf v, n | .build v _ _ _, n => (.ok v, n)
  | .handle _, n | .handled, n => ((), n)
  | .barred, n | .close .., n | .report _, n | .discard _, n => (none, n)

/-- An empty text is a value as good as any: the search stops there. -/
theorem empty_text_is_found :
    let layers := [countedEntry "Clock" "noon", countedEntry "Clock" "", countedEntry "Log" "file"]
    missingKeys.Settles "Clock" layers 0 (.ok "") 2 [2, 1] ∧
    ((lookup "Clock").answeredBy
      (complaining.consulting missingKeys (missingKeys.compose layers)).recorded (0, [])).1 =
        .ok "" := by
  intro layers
  obtain ⟨hplaces, -, -, hlookup⟩ := composition_searches_faithfully missingKeys "Clock"
  have hsettles : missingKeys.Settles "Clock" layers 0 (.ok "") 2 [2, 1] :=
    (hplaces layers 0 (.ok "") 2 [2, 1]).1 rfl
  refine ⟨hsettles, ?_⟩
  have hkeys : ∀ layer ∈ layers, ∀ n e, (layer "Clock" n).1 = .error e → ¬ e = .inr "Clock" := by
    intro layer hlayer n e he hlacks
    simp only [layers, List.mem_cons, List.not_mem_nil, or_false] at hlayer
    obtain rfl | rfl | rfl := hlayer <;> cases hlacks.symm.trans (countedEntry_error he)
  obtain ⟨-, -, hfound⟩ := hlookup complaining layers (· = .inr "Clock") 0 (fun _ _ => rfl)
    (fun _ => rfl) hkeys
  have hsome : ¬ ∃ s', missingKeys.AllAbsent "Clock" layers.reverse 0 s' := by
    rintro ⟨s', -, hempty, -⟩
    exact Absence.not_absent_ok hempty
  exact congrArg Prod.fst (hfound hsome).1

end

end Provision
