import Provision.Proofs.Layers
import Provision.Shelf

/-!
Merging: mappings that are copied into one, and mappings that are searched in layers.

A mapping that is composed of others goes through them forwards to tell its names and backwards to
find a value. Merging them overwrites values where they stand. Both come to the same mapping.

* `Bindings.names_update` and `Bindings.get?_update`: where names stand after many pairs were bound,
  and what is found under them;
* `Bindings.ofPairs_pairs`: binding the pairs of a dictionary in turn gives the dictionary;
* `names_composed_eq_all`: the names of a composition may be taken one at a time;
* `Mapping.assemble_eq_merged`: merging some mappings is making a new environment of them;
* `Mapping.Shows.composed`: a composition of mappings that show some dictionaries shows these merged;
* `composing_and_merging_agree`: the same for compositions of any depth, with everything that can be
  asked of a mapping.
-/

namespace Provision

variable {ν V E α β ι σ : Type}

/-! ### What binding many pairs does -/

namespace Bindings

variable [DecidableEq ν]

/-- Of two lists the first one decides. -/
lemma find?_append (n : ν) (ps qs : List (ν × α)) :
    find? n (ps ++ qs) = (find? n ps).or (find? n qs) := by
  induction ps with
  | nil => rfl
  | cons p ps ih =>
    by_cases h : p.1 = n <;> simp [find?, h, ih]

lemma find?_eq_none {n : ν} {ps : List (ν × α)} (h : n ∉ ps.map (·.1)) : find? n ps = none := by
  induction ps with
  | nil => rfl
  | cons p ps ih =>
    simp only [List.map_cons, List.mem_cons, not_or] at h
    have hne : ¬ p.1 = n := fun e => h.1 e.symm
    simp [find?, hne, ih h.2]

/-- Where no name comes twice, it does not matter from which end a name is looked for. -/
lemma find?_reverse {ps : List (ν × α)} (h : (ps.map (·.1)).Nodup) (n : ν) :
    find? n ps.reverse = find? n ps := by
  induction ps with
  | nil => rfl
  | cons p ps ih =>
    obtain ⟨hp, hps⟩ := List.nodup_cons.1 h
    rw [List.reverse_cons, find?_append, ih hps]
    by_cases hn : p.1 = n
    · subst hn
      rw [find?_eq_none hp]
      simp [find?]
    · simp [find?, hn]

/-- The last pair with a name decides. -/
lemma get?_update (b : Bindings ν α) (ps : List (ν × α)) (n : ν) :
    (b.update ps).get? n = (find? n ps.reverse).or (b.get? n) := by
  induction ps generalizing b with
  | nil => rfl
  | cons p ps ih =>
    rw [update_cons, ih, List.reverse_cons, find?_append]
    by_cases h : p.1 = n
    · subst h
      simp [find?]
    · rw [get?_put_of_ne b h]
      simp [find?, h]

/-- New names are added in the order in which they arrive. -/
lemma names_update (b : Bindings ν α) (ps : List (ν × α)) :
    (b.update ps).names = b.names ++ unseen b.names (ps.map (·.1)) := by
  induction ps generalizing b with
  | nil => simp [unseen]
  | cons p ps ih =>
    rw [update_cons, ih, names_put, List.map_cons, unseen]
    by_cases h : p.1 ∈ b.names <;> simp [h]

end Bindings

lemma unseen_nodup [DecidableEq ν] (seen names : List ν) (h : seen.Nodup) :
    (seen ++ unseen seen names).Nodup := by
  induction names generalizing seen with
  | nil => simpa [unseen]
  | cons n rest ih =>
    rw [unseen]
    by_cases hn : n ∈ seen
    · simpa [hn] using ih seen h
    · have hne : ∀ m ∈ seen, m ≠ n := fun m hm e => hn (e ▸ hm)
      have hseen : (seen ++ [n]).Nodup := List.nodup_append.2 ⟨h, by simp, by simpa using hne⟩
      simpa [hn] using ih (seen ++ [n]) hseen

namespace Bindings

variable [DecidableEq ν]

lemma find?_of_mem {ps : List (ν × α)} (h : (ps.map (·.1)).Nodup) {p : ν × α} (hp : p ∈ ps) :
    find? p.1 ps = some p.2 := by
  induction ps with
  | nil => cases hp
  | cons q ps ih =>
    obtain ⟨hq, hps⟩ := List.nodup_cons.1 h
    obtain rfl | hp := List.mem_cons.1 hp
    · simp [find?]
    · have hne : q.1 ≠ p.1 := fun e => hq (List.mem_map.2 ⟨p, hp, e.symm⟩)
      simp [find?, hne, ih hps hp]

lemma insert_of_notMem {n : ν} {a : α} {ps : List (ν × α)} (h : n ∉ ps.map (·.1)) :
    insert n a ps = ps ++ [(n, a)] := by
  induction ps with
  | nil => rfl
  | cons p ps ih =>
    simp only [List.map_cons, List.mem_cons, not_or] at h
    have hne : ¬ p.1 = n := fun e => h.1 e.symm
    simp [insert, hne, ih h.2]

/-- Where no name comes twice, binding adds pair after pair. -/
lemma pairs_update {b : Bindings ν α} {ps : List (ν × α)}
    (h : ((b.pairs ++ ps).map (·.1)).Nodup) : (b.update ps).pairs = b.pairs ++ ps := by
  induction ps generalizing b with
  | nil => simp
  | cons p ps ih =>
    have hp : p.1 ∉ b.pairs.map (·.1) := by
      rw [List.map_append, List.nodup_append] at h
      intro hmem
      exact h.2.2 _ hmem p.1 (by simp) rfl
    have hput : (b.put p.1 p.2).pairs = b.pairs ++ [p] := insert_of_notMem hp
    rw [update_cons, ih (by rw [hput]; simpa using h), hput]
    simp

end Bindings

/-! ### Dictionaries -/

/-- Bindings in which no name comes twice. -/
structure Dictionary (ν α : Type) extends Bindings ν α where
  nodup : toBindings.names.Nodup

namespace Dictionary

variable [DecidableEq ν]

/-- The dictionary made by a list of pairs, later pairs winning. -/
def ofPairs (ps : List (ν × α)) : Dictionary ν α where
  toBindings := .ofPairs ps
  nodup := by
    rw [Bindings.ofPairs, Bindings.names_update]
    exact unseen_nodup [] _ List.nodup_nil

/-- Binding the pairs of a dictionary in turn gives the dictionary. -/
lemma ofPairs_pairs (d : Dictionary ν α) : Bindings.ofPairs d.pairs = d.toBindings := by
  have h : (Bindings.ofPairs d.pairs).pairs = [] ++ d.pairs := Bindings.pairs_update d.nodup
  obtain ⟨⟨ps⟩, hd⟩ := d
  exact congrArg Bindings.mk h

lemma get?_ofPairs (ps : List (ν × α)) (n : ν) :
    (Bindings.ofPairs ps).get? n = Bindings.find? n ps.reverse := by
  rw [Bindings.ofPairs, Bindings.get?_update, Bindings.get?_empty, Option.or_none]

lemma names_ofPairs (ps : List (ν × α)) :
    (Bindings.ofPairs ps).names = unseen [] (ps.map (·.1)) := by
  rw [Bindings.ofPairs, Bindings.names_update]
  rfl

end Dictionary

/-! ### Mappings -/

/-- The errors of missing keys, among them those that say that there is no such name. -/
structure MissingKeys (ν E : Type) extends Absence ν E where
  isMissingKey : E → Bool
  isMissingKey_missing (name : ν) : isMissingKey (missing name) = true

/-- What can be asked of a mapping. -/
structure Mapping (m : Type → Type) (ν V E : Type) where
  /-- The names, in the order in which an iteration gives them. -/
  names : m (List ν)
  lookup : Lookup m ν V E
  /-- The names with their values. -/
  items : m (Except E (List (ν × V)))
  size : m ℕ
  contains : ν → m (Except E Bool)

section

variable {m : Type → Type} [Monad m]

/-- Does some things in turn, up to the first failure. -/
def inTurn : List (m (Except E α)) → m (Except E (List α))
  | [] => pure (.ok [])
  | action :: rest => do
    match ← action with
    | .error e => pure (.error e)
    | .ok a =>
      match ← inTurn rest with
      | .error e => pure (.error e)
      | .ok as => pure (.ok (a :: as))

/-- Looks up every name that an iteration gives. -/
def listed (names : m (List ν)) (lookup : Lookup m ν V E) : m (Except E (List (ν × V))) := do
  inTurn ((← names).map fun n => (·.map (Prod.mk n)) <$> lookup n)

variable [DecidableEq ν] (κ : MissingKeys ν E)

/-- Looks a name up in a dictionary. -/
def Dictionary.lookup (d : Dictionary ν V) (name : ν) : Except E V :=
  (d.get? name).elim (.error (κ.missing name)) .ok

namespace Mapping

/-- A dictionary, wherever it is read from. -/
def ofDictionary (read : m (Dictionary ν V)) : Mapping m ν V E where
  names := (·.names) <$> read
  lookup name := (·.lookup κ name) <$> read
  items := (fun d => .ok d.pairs) <$> read
  size := (·.size) <$> read
  contains name := (fun d => .ok (d.contains name)) <$> read

/-- The mapping that is composed of some parts. All that can be asked of it comes from its names and
its lookups. -/
def composed (parts : List (Mapping m ν V E)) : Mapping m ν V E :=
  let names := firstArrivals <$> parts.mapM (·.names)
  let lookup := κ.compose (parts.map (·.lookup))
  { names
    lookup
    items := listed names lookup
    size := List.length <$> names
    contains := fun name => do
      match ← lookup name with
      | .ok _ => pure (.ok true)
      | .error e => if κ.isMissingKey e then pure (.ok false) else pure (.error e) }

/-- A new dictionary with the names and values of a mapping. -/
def copied (mapping : Mapping m ν V E) : m (Except E (Bindings ν V)) :=
  (·.map .ofPairs) <$> listed mapping.names mapping.lookup

/-- A new dictionary into which the items of some mappings are merged. -/
def merged (parts : List (Mapping m ν V E)) : m (Except E (Bindings ν V)) :=
  (·.map fun mappings => merge (mappings.map fun items =>
    items.map fun item => ((.name item.1 : Label ν Unit), item.2))) <$> inTurn (parts.map (·.items))

end Mapping

end

/-! ### One name at a time -/

/-- Where somebody stands who takes the names of some layers one at a time: the names so far, those
that are left of one layer, and the layers that are left. -/
structure Arrivals (σ ν : Type) where
  seen : List ν
  current : List ν
  layers : List (StateM σ (List ν))

namespace Arrivals

variable [DecidableEq ν]

/-- Begins with the names of the next layer. -/
def nextLayer : StateM (Arrivals σ ν × σ) (Option Unit) := fun (p, s) =>
  match p.layers with
  | [] => (none, p, s)
  | names :: layers => (some (), ⟨p.seen, (names s).1, layers⟩, (names s).2)

/-- Takes the next name of the layer. -/
def nextName (_ : Unit) : StateM (Arrivals σ ν × σ) (Option ν) := fun (p, s) =>
  (p.current.head?, { p with current := p.current.tail }, s)

/-- The next name that was not seen before. -/
def next (spent : StateM (Arrivals σ ν × σ) (Option (ν × Unit))) (fuel : ℕ) :
    StateM (Arrivals σ ν × σ) (Option (ν × Unit)) :=
  nextUnseen spent nextLayer nextName (fun name (p, s) => (p.seen.contains name, p, s))
    (fun name (p, s) => ((), { p with seen := p.seen ++ [name] }, s)) fuel (some ())

/-- The names that are left, as they are when their layers have their turns. -/
def left (p : Arrivals σ ν) : StateM σ (List ν) := fun s =>
  let x := p.layers.mapM id s
  (p.current ++ x.1.flatten, x.2)

variable (spent : StateM (Arrivals σ ν × σ) (Option (ν × Unit))) {seen current : List ν}
  {layers : List (StateM σ (List ν))} {name : ν} {s : σ} {fuel : ℕ}

lemma next_seen (h : name ∈ seen) :
    next spent (fuel + 1) (⟨seen, name :: current, layers⟩, s) =
      next spent fuel (⟨seen, current, layers⟩, s) := by
  simp [next, nextUnseen, nextName, bind, StateT.bind, h]

lemma next_unseen (h : name ∉ seen) :
    next spent (fuel + 1) (⟨seen, name :: current, layers⟩, s) =
      (some (name, ()), ⟨seen ++ [name], current, layers⟩, s) := by
  simp [next, nextUnseen, nextName, bind, StateT.bind, h, pure_apply]

lemma next_layer (names : StateM σ (List ν)) :
    next spent (fuel + 2) (⟨seen, [], names :: layers⟩, s) =
      next spent fuel (⟨seen, (names s).1, layers⟩, (names s).2) := by
  simp [next, nextUnseen, nextName, nextLayer, bind, StateT.bind]

lemma next_end :
    next spent (fuel + 2) (⟨seen, [], []⟩, s) = (none, ⟨seen, [], []⟩, s) := by
  simp [next, nextUnseen, nextName, nextLayer, bind, StateT.bind, pure_apply]

omit [DecidableEq ν] in
lemma left_layer (names : StateM σ (List ν)) :
    left ⟨seen, [], names :: layers⟩ s = left ⟨seen, (names s).1, layers⟩ (names s).2 := by
  rw [left, List.mapM_cons]
  rfl

/-- With enough steps there is a next name, or none is left. No name is lost or repeated. -/
def Advances (p : Arrivals σ ν) (s : σ) : Prop := ∃ found p' s',
  (∃ enough, ∀ fuel ≥ enough, next spent fuel (p, s) = (found, p', s')) ∧
    unseen p.seen (p.left s).1 = (found.map Prod.fst).toList ++ unseen p'.seen (p'.left s').1 ∧
    (p'.left s').2 = (p.left s).2 ∧ (found = none → p'.left s' = ([], s'))

variable {spent}

lemma Advances.cons (h : Advances spent ⟨seen, current, layers⟩ s) (name : ν) :
    Advances spent ⟨seen, name :: current, layers⟩ s := by
  by_cases hseen : name ∈ seen
  · obtain ⟨found, p', s', ⟨enough, hnext⟩, hnames, hstate, hend⟩ := h
    refine ⟨found, p', s', ⟨enough + 1, fun fuel hfuel => ?_⟩, ?_, hstate, hend⟩
    · obtain ⟨fuel, rfl⟩ := Nat.exists_eq_add_of_le' hfuel
      rw [← Nat.add_assoc, next_seen spent hseen]
      exact hnext _ (Nat.le_add_left enough fuel)
    · rw [← hnames]
      simp [left, unseen, hseen]
  · refine ⟨some (name, ()), ⟨seen ++ [name], current, layers⟩, s, ⟨1, fun fuel hfuel => ?_⟩, ?_,
      rfl, nofun⟩
    · obtain ⟨fuel, rfl⟩ := Nat.exists_eq_add_of_le' hfuel
      exact next_unseen spent hseen
    · simp [left, unseen, hseen]

variable (spent) in
lemma advances (p : Arrivals σ ν) (s : σ) : Advances spent p s := by
  obtain ⟨seen, current, layers⟩ := p
  -- The names of one layer are passed over first, whatever layers are left.
  have hnames {layers : List (StateM σ (List ν))} {s : σ}
      (h : Advances spent ⟨seen, [], layers⟩ s) (current : List ν) :
      Advances spent ⟨seen, current, layers⟩ s := by
    induction current with
    | nil => exact h
    | cons name current ih => exact Advances.cons ih name
  induction layers generalizing current s with
  | nil =>
    refine hnames ⟨none, ⟨seen, [], []⟩, s, ⟨2, fun fuel hfuel => ?_⟩, rfl, rfl, fun _ => rfl⟩ _
    obtain ⟨fuel, rfl⟩ := Nat.exists_eq_add_of_le' hfuel
    exact next_end spent
  | cons names layers ih =>
    obtain ⟨found, p', s', ⟨enough, hnext⟩, hunseen, hstate, hend⟩ := ih (names s).2 (names s).1
    refine hnames ⟨found, p', s', ⟨enough + 2, fun fuel hfuel => ?_⟩, ?_, ?_, hend⟩ _
    · obtain ⟨fuel, rfl⟩ := Nat.exists_eq_add_of_le' hfuel
      rw [← Nat.add_assoc, next_layer]
      exact hnext _ (Nat.le_add_left enough fuel)
    · rw [left_layer]
      exact hunseen
    · rw [left_layer]
      exact hstate

/-- All names that come, one after the other, after those that were given. -/
def all (spent : StateM (Arrivals σ ν × σ) (Option (ν × Unit)))
    (spent' : StateM (Arrivals σ ν × σ) (List ν)) (fuel : ℕ) :
    ℕ → List ν → StateM (Arrivals σ ν × σ) (List ν) :=
  through spent' (next spent fuel) fun given found => pure (given ++ [found.1], true)

variable {spent' : StateM (Arrivals σ ν × σ) (List ν)} {steps : ℕ} {given : List ν}
  {x y : Arrivals σ ν × σ}

lemma all_of_some {found : ν × Unit} (h : next spent fuel x = (some found, y)) :
    all spent spent' fuel (steps + 1) given x =
      all spent spent' fuel steps (given ++ [found.1]) y := by
  simp [all, through, bind, StateT.bind, h, pure_apply]

lemma all_of_none (h : next spent fuel x = (none, y)) :
    all spent spent' fuel (steps + 1) given x = (given, y) := by
  simp [all, through, bind, StateT.bind, h, pure_apply]

variable (spent spent') in
/-- Whoever takes one name at a time takes all that are left, each once. -/
lemma exists_all (p : Arrivals σ ν) (given : List ν) (s : σ) :
    ∃ enough, ∀ fuel ≥ enough, ∀ steps ≥ enough, ∃ p', all spent spent' fuel steps given (p, s) =
      (given ++ unseen p.seen (p.left s).1, p', (p.left s).2) := by
  obtain ⟨names, hnames⟩ : ∃ names, unseen p.seen (p.left s).1 = names := ⟨_, rfl⟩
  induction names generalizing p given s with
  | nil =>
    obtain ⟨found, p', s', ⟨enough, hnext⟩, hunseen, hstate, hend⟩ := advances spent p s
    obtain rfl : found = none := by
      cases found with
      | none => rfl
      | some found => rw [hnames] at hunseen; cases hunseen
    refine ⟨enough + 1, fun fuel hfuel steps hsteps => ⟨p', ?_⟩⟩
    obtain ⟨steps, rfl⟩ := Nat.exists_eq_add_of_le' hsteps
    rw [← Nat.add_assoc, all_of_none (hnext fuel (Nat.le_of_succ_le hfuel)), hnames, ← hstate,
      hend rfl, List.append_nil]
  | cons name names ih =>
    obtain ⟨found, p', s', ⟨enough, hnext⟩, hunseen, hstate, hend⟩ := advances spent p s
    rw [hnames] at hunseen
    cases found with
    | none =>
      rw [hend rfl] at hunseen
      cases hunseen
    | some found =>
      obtain ⟨rfl, hrest⟩ : name = found.1 ∧ names = unseen p'.seen (p'.left s').1 :=
        List.cons.inj hunseen
      obtain ⟨enough', hall⟩ := ih p' (given ++ [found.1]) s' hrest.symm
      refine ⟨enough + enough' + 1, fun fuel hfuel steps hsteps => ?_⟩
      obtain ⟨steps, rfl⟩ := Nat.exists_eq_add_of_le' hsteps
      obtain ⟨p'', hp⟩ := hall fuel (by omega) (steps + (enough + enough')) (by omega)
      refine ⟨p'', ?_⟩
      rw [← Nat.add_assoc, all_of_some (hnext fuel (by omega)), hp, hnames, ← hrest, hstate,
        List.append_assoc, List.singleton_append]

end Arrivals

/-- **Names can be taken one at a time.** The names of a composition are those that somebody is given
who goes through the layers as they are when they have their turns, and takes one name at a time that
was not seen before. -/
theorem names_composed_eq_all [DecidableEq ν] (κ : MissingKeys ν E)
    (parts : List (Mapping (StateM σ) ν V E)) (s : σ)
    (spent : StateM (Arrivals σ ν × σ) (Option (ν × Unit)))
    (spent' : StateM (Arrivals σ ν × σ) (List ν)) :
    ∃ enough, ∀ fuel ≥ enough, ∀ steps ≥ enough,
      let x := Arrivals.all spent spent' fuel steps [] (⟨[], [], parts.map (·.names)⟩, s)
      (Mapping.composed κ parts).names s = (x.1, x.2.2) := by
  obtain ⟨enough, h⟩ := Arrivals.exists_all spent spent' ⟨[], [], parts.map (·.names)⟩ [] s
  refine ⟨enough, fun fuel hfuel steps hsteps => ?_⟩
  obtain ⟨p', hp⟩ := h fuel hfuel steps hsteps
  rw [hp, Arrivals.left, List.mapM_map]
  rfl

/-! ### One new dictionary -/

section

variable {m : Type → Type} [Monad m]

namespace Mapping

/-- Pairs under bare names. -/
def labelled (items : List (ν × V)) : List (Label ν Unit × V) :=
  items.map fun item => (.name item.1, item.2)

/-- A shelf of mappings, and of the dictionaries that are made of them. -/
def shelf [DecidableEq ν] : Shelf (ExceptT E m) (Mapping m ν V E ⊕ Bindings ν V) ν Unit V where
  pairs _
    | .inl mapping => labelled <$> ExceptT.mk mapping.items
    | .inr b => pure (labelled b.pairs)
  truth
    | .inl mapping => (· != 0) <$> ExceptT.lift mapping.size
    | .inr b => pure (b.size != 0)
  add b := pure (.inr b)

variable [LawfulMonad m] [DecidableEq ν]

lemma pairsOfAll_run (known : List ν) (parts : List (Mapping m ν V E)) :
    (shelf.pairsOfAll known (parts.map .inl)).run =
      Except.map (List.map labelled) <$> inTurn (parts.map (·.items)) := by
  induction parts generalizing known with
  | nil => simp [Shelf.pairsOfAll, inTurn, Except.map]
  | cons part parts ih =>
    have hfirst : (shelf.pairs known (.inl part) : ExceptT E m _).run =
        Except.map labelled <$> part.items := by
      simp only [shelf, ExceptT.run_map]
      rfl
    simp only [List.map_cons, Shelf.pairsOfAll, inTurn, ExceptT.run_bind, map_bind]
    rw [hfirst, bind_map_left]
    refine bind_congr fun first => ?_
    cases first with
    | error e => simp [Except.map]
    | ok items =>
      simp only [Except.map, ih, map_bind, bind_map_left]
      refine bind_congr fun rest => ?_
      cases rest <;> simp [Except.map]

/-- **Merging is assembling.** What is merged of some mappings is the dictionary that a shelf makes
of them when they are mappings of a new environment. -/
theorem assemble_eq_merged (parts : List (Mapping m ν V E)) :
    (shelf.assemble (.environment (parts.map .inl) [])).run = Except.map .inr <$> merged parts := by
  simp only [Shelf.assemble, ExceptT.run_bind, pairsOfAll_run, merged, map_eq_pure_bind, bind_assoc,
    pure_bind]
  refine bind_congr fun items => ?_
  cases items with
  | error e => rfl
  | ok items => rfl

end Mapping

end

/-! ### Mappings in a store -/

/-- The mapping that is composed in this way of dictionaries in a store. -/
def Layered.mapping [DecidableEq ν] (κ : MissingKeys ν E) :
    Layered ι → Mapping (StateM (ι → Dictionary ν V)) ν V E :=
  fold (fun i => .ofDictionary κ fun store => (store i, store)) (.composed κ)

/-- The dictionary that is merged in this way from dictionaries in a store. -/
def Layered.dictionary [DecidableEq ν] (store : ι → Dictionary ν V) : Layered ι → Dictionary ν V :=
  fold store fun parts => .ofPairs (parts.flatMap (·.pairs))

/-! ### Showing a dictionary -/

section

variable [DecidableEq ν]

/-- Whatever a mapping is asked, it answers like a dictionary and leaves everything as it is. -/
structure Mapping.Shows (κ : MissingKeys ν E) (mapping : Mapping (StateM σ) ν V E) (s : σ)
    (d : Dictionary ν V) : Prop where
  names : mapping.names s = (d.names, s)
  lookup (name : ν) : mapping.lookup name s = (d.lookup κ name, s)
  items : mapping.items s = (.ok d.pairs, s)
  size : mapping.size s = (d.size, s)
  contains (name : ν) : mapping.contains name s = (.ok (d.contains name), s)

variable {κ : MissingKeys ν E} {s : σ}

lemma mapM_apply {xs : List β} {f : β → StateM σ α} {g : β → α} (h : ∀ x ∈ xs, f x s = (g x, s)) :
    xs.mapM f s = (xs.map g, s) := by
  induction xs with
  | nil => rfl
  | cons x xs ih =>
    obtain ⟨hx, hxs⟩ := List.forall_mem_cons.1 h
    simp only [List.mapM_cons, bind, StateT.bind, hx, ih hxs]
    rfl

lemma inTurn_apply {xs : List β} {f : β → StateM σ (Except E α)} {g : β → α}
    (h : ∀ x ∈ xs, f x s = (.ok (g x), s)) : inTurn (xs.map f) s = (.ok (xs.map g), s) := by
  induction xs with
  | nil => rfl
  | cons x xs ih =>
    obtain ⟨hx, hxs⟩ := List.forall_mem_cons.1 h
    simp only [List.map_cons, inTurn, bind, StateT.bind, hx, ih hxs]
    rfl

/-- Who looks up the names of a dictionary finds its pairs. -/
lemma listed_apply {names : StateM σ (List ν)} {lookup : Lookup (StateM σ) ν V E}
    {d : Dictionary ν V} (hnames : names s = (d.names, s))
    (hlookup : ∀ name, lookup name s = (d.lookup κ name, s)) :
    listed names lookup s = (.ok d.pairs, s) := by
  have hpair : ∀ p ∈ d.pairs, ((·.map (Prod.mk p.1)) <$> lookup p.1) s = (Except.ok p, s) := by
    intro p hp
    have hget : d.get? p.1 = some p.2 := Bindings.find?_of_mem d.nodup hp
    simp [Functor.map, StateT.map, hlookup, Dictionary.lookup, hget, bind, pure, Except.map]
  simp only [listed, bind, StateT.bind, hnames, Bindings.names, List.map_map]
  have hall := inTurn_apply (g := id) hpair
  rw [List.map_id] at hall
  exact hall

/-- Layers that show dictionaries are searched like all their pairs, the last pair first. -/
lemma asked_apply {xs : List β} {read : β → Lookup (StateM σ) ν V E} {d : β → Dictionary ν V}
    {name : ν} (h : ∀ x ∈ xs, read x name s = ((d x).lookup κ name, s)) :
    κ.asked name (xs.map read) s =
      ((Bindings.find? name (xs.flatMap fun x => (d x).pairs.reverse)).map .ok, s) := by
  induction xs with
  | nil => rfl
  | cons x xs ih =>
    obtain ⟨hx, hxs⟩ := List.forall_mem_cons.1 h
    rw [List.map_cons, List.flatMap_cons, Bindings.find?_append, Bindings.find?_reverse (d x).nodup]
    cases hget : (d x).get? name with
    | none =>
      have hread : read x name s = (.error (κ.missing name), s) := by
        rw [hx, Dictionary.lookup, hget]
        rfl
      rw [Absence.asked_of_absent (by rw [hread]; exact Absence.absent_missing), hread, ih hxs]
      rw [Bindings.get?] at hget
      rw [hget, Option.none_or]
    | some v =>
      have hread : read x name s = (.ok v, s) := by
        rw [hx, Dictionary.lookup, hget]
        rfl
      rw [Absence.asked_of_not_absent (by rw [hread]; exact Absence.not_absent_ok), hread]
      rw [Bindings.get?] at hget
      rw [hget]
      rfl

/-- A composition of layers that show dictionaries is searched like the dictionary that is merged of
them. -/
lemma compose_apply {xs : List β} {read : β → Lookup (StateM σ) ν V E} {d : β → Dictionary ν V}
    {name : ν} (h : ∀ x ∈ xs, read x name s = ((d x).lookup κ name, s)) :
    κ.compose (xs.map read) name s =
      ((Dictionary.ofPairs (xs.flatMap fun x => (d x).pairs)).lookup κ name, s) := by
  have hreverse : ∀ x ∈ xs.reverse, read x name s = ((d x).lookup κ name, s) :=
    fun x hx => h x (List.mem_reverse.1 hx)
  have hask := asked_apply hreverse
  have hget : (Dictionary.ofPairs (xs.flatMap fun x => (d x).pairs)).get? name =
      Bindings.find? name (xs.reverse.flatMap fun x => (d x).pairs.reverse) := by
    rw [Dictionary.ofPairs, Dictionary.get?_ofPairs, List.reverse_flatMap]
    rfl
  rw [Absence.compose_eq, ← List.map_reverse, hask, Dictionary.lookup, hget]
  cases Bindings.find? name (xs.reverse.flatMap fun x => (d x).pairs.reverse) <;> rfl

/-- Merging lists of pairs under bare names is binding them in turn. -/
lemma merge_names (mappings : List (List (ν × V))) :
    merge (mappings.map fun items => items.map fun item => ((.name item.1 : Label ν Unit), item.2)) =
      Bindings.ofPairs mappings.flatten := by
  have hnames (items : List (ν × V)) :
      byName (items.map fun item => ((.name item.1 : Label ν Unit), item.2)) = items := by
    simp [byName, Label.key, Function.comp_def]
  simp [merge, environment, Function.comp_def, hnames]

lemma Mapping.contains_composed (parts : List (Mapping (StateM σ) ν V E)) (name : ν) (s : σ) :
    (Mapping.composed κ parts).contains name s =
      match (Mapping.composed κ parts).lookup name s with
      | (.ok _, s') => (.ok true, s')
      | (.error e, s') => (if κ.isMissingKey e then .ok false else .error e, s') := by
  obtain ⟨result, s', h⟩ : ∃ result s', κ.compose (parts.map (·.lookup)) name s = (result, s') :=
    ⟨_, _, rfl⟩
  simp only [Mapping.composed, bind, StateT.bind, h]
  cases result with
  | ok v => rfl
  | error e => cases hkey : κ.isMissingKey e <;> simp [hkey, pure_apply]

namespace Mapping.Shows

lemma ofDictionary (read : StateM σ (Dictionary ν V)) (h : (read s).2 = s) :
    (Mapping.ofDictionary κ read).Shows κ s (read s).1 := by
  obtain ⟨d, s', hd⟩ : ∃ d s', read s = (d, s') := ⟨_, _, rfl⟩
  rw [hd] at h ⊢
  obtain rfl : s' = s := h
  constructor <;>
    simp [Mapping.ofDictionary, Functor.map, StateT.map, hd, bind, pure]

/-- A composition of mappings that show some dictionaries shows these merged. -/
lemma composed {xs : List β} {mapping : β → Mapping (StateM σ) ν V E} {d : β → Dictionary ν V}
    (h : ∀ x ∈ xs, (mapping x).Shows κ s (d x)) :
    (Mapping.composed κ (xs.map mapping)).Shows κ s
      (.ofPairs (xs.flatMap fun x => (d x).pairs)) := by
  have hlookup (name : ν) : (Mapping.composed κ (xs.map mapping)).lookup name s =
      ((Dictionary.ofPairs (xs.flatMap fun x => (d x).pairs)).lookup κ name, s) := by
    show κ.compose ((xs.map mapping).map (·.lookup)) name s = _
    rw [List.map_map]
    exact compose_apply fun x hx => (h x hx).lookup name
  have hnames : (Mapping.composed κ (xs.map mapping)).names s =
      ((Dictionary.ofPairs (xs.flatMap fun x => (d x).pairs)).names, s) := by
    have harrive : (xs.map mapping).mapM (·.names) s = (xs.map fun x => (d x).names, s) := by
      rw [List.mapM_map]
      exact mapM_apply fun x hx => (h x hx).names
    have hfirst : firstArrivals (xs.map fun x => (d x).names) =
        (Bindings.ofPairs (xs.flatMap fun x => (d x).pairs)).names := by
      rw [Dictionary.names_ofPairs, List.map_flatMap, List.flatMap_def]
      rfl
    simp only [Mapping.composed, Functor.map, StateT.map, harrive, bind, hfirst]
    rfl
  refine ⟨hnames, hlookup, listed_apply hnames hlookup, ?_, fun name => ?_⟩
  · show (List.length <$> (Mapping.composed κ (xs.map mapping)).names) s = _
    simp [Functor.map, StateT.map, hnames, bind, pure, Bindings.names, Bindings.size]
  · rw [contains_composed, hlookup, Dictionary.lookup, Bindings.contains]
    cases (Dictionary.ofPairs (xs.flatMap fun x => (d x).pairs)).get? name <;>
      simp [κ.isMissingKey_missing]

/-- Merging mappings that show some dictionaries merges these. -/
lemma merged {xs : List β} {mapping : β → Mapping (StateM σ) ν V E} {d : β → Dictionary ν V}
    (h : ∀ x ∈ xs, (mapping x).Shows κ s (d x)) :
    Mapping.merged (xs.map mapping) s =
      (.ok (Dictionary.ofPairs (xs.flatMap fun x => (d x).pairs)).toBindings, s) := by
  have hitems : inTurn ((xs.map mapping).map (·.items)) s =
      (.ok (xs.map fun x => (d x).pairs), s) := by
    rw [List.map_map]
    exact inTurn_apply fun x hx => (h x hx).items
  simp only [Mapping.merged, Functor.map, StateT.map, hitems, bind, Except.map, merge_names]
  rw [← List.flatMap_def]
  rfl

/-- A mapping that shows a dictionary is copied to it. -/
lemma copied {mapping : Mapping (StateM σ) ν V E} {d : Dictionary ν V} (h : mapping.Shows κ s d) :
    mapping.copied s = (.ok d.toBindings, s) := by
  simp only [Mapping.copied, Functor.map, StateT.map, listed_apply h.names h.lookup, bind]
  exact congrArg (fun b => (Except.ok b, s)) d.ofPairs_pairs

end Mapping.Shows

/-- Mappings that are composed in whatever way show what is merged in this way. -/
lemma Layered.mapping_shows (κ : MissingKeys ν E) (store : ι → Dictionary ν V) (t : Layered ι) :
    (t.mapping κ).Shows κ store (t.dictionary store) := by
  induction t with
  | single i => exact .ofDictionary _ rfl
  | composed parts ih =>
    rw [mapping, dictionary, fold_composed, fold_composed, List.flatMap_map]
    exact .composed ih

/-- **Composing and merging come to the same mapping.** The parts are dictionaries in a store, or
compositions of such parts again, to whatever depth. Merging them gives a dictionary without failing,
and whatever the composition of the parts is asked, it answers like this dictionary: under every
name there is the same value, or both say that there is none; the names come in the same order, and
none comes twice; there are equally many; and a name is contained in both, which is where a lookup
finds something, or in neither. Copying the composition gives the merged dictionary in its order.
None of this changes anything in the store. -/
theorem composing_and_merging_agree (κ : MissingKeys ν E) (parts : List (Layered ι))
    (store : ι → Dictionary ν V) :
    let composed := (Layered.composed parts).mapping κ
    ∃ d : Dictionary ν V,
      Mapping.merged (parts.map (Layered.mapping κ)) store = (.ok d.toBindings, store) ∧
      composed.copied store = (.ok d.toBindings, store) ∧
      composed.items store = (.ok d.pairs, store) ∧
      composed.names store = (d.names, store) ∧
      d.names.Nodup ∧
      composed.size store = (d.size, store) ∧
      ∀ name, composed.lookup name store = (d.lookup κ name, store) ∧
        composed.contains name store = (.ok (d.contains name), store) ∧
        (d.contains name = true ↔ ∃ v, d.lookup κ name = .ok v) := by
  intro composed
  have hshows : composed.Shows κ store ((Layered.composed parts).dictionary store) :=
    (Layered.composed parts).mapping_shows κ store
  have hmerged := Mapping.Shows.merged fun part (_ : part ∈ parts) => part.mapping_shows κ store
  rw [Layered.dictionary, Layered.fold_composed, List.flatMap_map] at hshows
  refine ⟨_, hmerged, hshows.copied, hshows.items, hshows.names, Dictionary.nodup _, hshows.size,
    fun name => ⟨hshows.lookup name, hshows.contains name, ?_⟩⟩
  rw [Dictionary.lookup, Bindings.contains]
  cases Bindings.get? _ name <;> simp

/-- A later value takes the place of the first. -/
example :
    let store (late : Bool) : Dictionary String ℕ :=
      .ofPairs (if late then [("Log", 3), ("Clock", 4)] else [("Clock", 1), ("Mail", 2)])
    ((Layered.composed [.single false, .composed [.single true]]).dictionary store).pairs =
      [("Clock", 4), ("Mail", 2), ("Log", 3)] := rfl

end

end Provision
