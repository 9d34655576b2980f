import Mathlib.Algebra.BigOperators.Group.List.Basic
import Mathlib.Logic.Relation
import Provision.Proofs.Declaration
import Provision.Shelf

/-!
Regrouping: bindings that are made one after the other, however they are split among mappings.

Dictionaries form a monoid, and binding a list of pairs is a homomorphism to it. What is made of
mappings is therefore told by one list of pairs, in which nothing says where one mapping ends and
the next begins. Mappings may change after they were used, but what is made of them is a copy.

* `Dictionary.ofPairs_append`: binding two lists is multiplying their dictionaries;
* `environment_eq`: environments as products, whatever the mappings;
* `Shelves.make_adds`: what the ways to make a dictionary add to a store, and what they leave;
* `Shelves.Step.keeps`: whatever callers do, a dictionary that they do not have in their hands stays
  as it is;
* `Lineage.holds`: a runtime holds what it was made of, whatever happened meanwhile;
* `bindings_are_not_grouped`: all of this about environments, runtimes and runs.
-/

namespace Provision

variable {ν C V E α σ τ : Type}

/-! ### Names without repetition -/

section

variable [DecidableEq ν]

/-- The unseen names are those that are not seen already, without repetition. -/
lemma unseen_eq (seen names : List ν) :
    unseen seen names = (names.filter fun n => n ∉ seen).eraseDups := by
  induction names generalizing seen with
  | nil => simp [unseen]
  | cons n rest ih =>
    rw [unseen, ih, ih]
    by_cases hn : n ∈ seen
    · simp [hn]
    · have hfilter : (rest.filter fun m => m ∉ seen ++ [n]) =
          (rest.filter fun m => m ∉ seen).filter fun m => !m == n := by
        rw [List.filter_filter]
        refine List.filter_congr fun m _ => ?_
        by_cases hm : m = n <;> simp [hm]
      rw [List.filter_cons_of_pos (by simpa using hn), List.eraseDups_cons, ← hfilter]
      simp [hn]

/-- Names that are dropped because they come twice would have been dropped later. -/
lemma unseen_unseen {seen seen' : List ν} (h : seen' ⊆ seen) (names : List ν) :
    unseen seen (unseen seen' names) = unseen seen names := by
  induction names generalizing seen seen' with
  | nil => rfl
  | cons n rest ih =>
    by_cases hn' : n ∈ seen'
    · have hn : n ∈ seen := h hn'
      simp [unseen, hn', hn, ih h]
    · by_cases hn : n ∈ seen
      · have hsub : seen' ++ [n] ⊆ seen := by simp [h, hn]
        simp [unseen, hn', hn, ih hsub]
      · have hsub : seen' ++ [n] ⊆ seen ++ [n] := List.append_subset.2
          ⟨List.subset_append_of_subset_left _ h, List.subset_append_right _ _⟩
        simp [unseen, hn', hn, ih hsub]

/-! ### The monoid of dictionaries -/

namespace Dictionary

omit [DecidableEq ν] in
lemma ext_bindings {d e : Dictionary ν α} (h : d.toBindings = e.toBindings) : d = e := by
  cases d
  cases e
  simpa using h

/-- A dictionary is told by its names and by what is found under them. -/
lemma pairs_eq (d : Dictionary ν α) :
    d.pairs = d.names.filterMap fun n => (d.get? n).map (n, ·) := by
  have hfind : ∀ p ∈ d.pairs, (d.get? p.1).map (p.1, ·) = some p := by
    intro p hp
    have hget : d.get? p.1 = some p.2 := Bindings.find?_of_mem d.nodup hp
    rw [hget]
    rfl
  rw [Bindings.names, List.filterMap_map]
  exact ((List.filterMap_congr hfind).trans List.filterMap_some).symm

lemma ext_get? {d e : Dictionary ν α} (hnames : d.names = e.names)
    (hget : ∀ n, d.get? n = e.get? n) : d = e := by
  refine ext_bindings ?_
  have hpairs : d.pairs = e.pairs := by
    rw [d.pairs_eq, e.pairs_eq, hnames]
    simp only [hget]
  exact congrArg Bindings.mk hpairs

/-- The dictionary with some pairs bound in turn. -/
def update (d : Dictionary ν α) (ps : List (ν × α)) : Dictionary ν α where
  toBindings := d.toBindings.update ps
  nodup := by
    rw [Bindings.names_update]
    exact unseen_nodup _ _ d.nodup

/-- It makes no difference whether pairs are bound in a dictionary of their own before. -/
lemma update_ofPairs (d : Dictionary ν α) (ps : List (ν × α)) :
    d.update (ofPairs ps).pairs = d.update ps := by
  refine ext_get? ?_ fun n => ?_
  · show (d.toBindings.update (ofPairs ps).pairs).names = (d.toBindings.update ps).names
    have hnames : (ofPairs ps).pairs.map (·.1) = unseen [] (ps.map (·.1)) := names_ofPairs ps
    rw [Bindings.names_update, Bindings.names_update, hnames, unseen_unseen (List.nil_subset _)]
  · show (d.toBindings.update (ofPairs ps).pairs).get? n = (d.toBindings.update ps).get? n
    have hfind : Bindings.find? n (ofPairs ps).pairs = Bindings.find? n ps.reverse :=
      get?_ofPairs ps n
    rw [Bindings.get?_update, Bindings.get?_update, Bindings.find?_reverse (ofPairs ps).nodup,
      hfind]

/-- Updating a dictionary from another one is an associative operation. -/
instance : Mul (Dictionary ν α) := ⟨fun d e => d.update e.pairs⟩

instance : One (Dictionary ν α) := ⟨ofPairs []⟩

lemma ofPairs_append (ps qs : List (ν × α)) : ofPairs (ps ++ qs) = ofPairs ps * ofPairs qs := by
  have happend : ofPairs (ps ++ qs) = (ofPairs ps).update qs :=
    ext_bindings (Bindings.update_append _ ps qs)
  exact happend.trans (update_ofPairs _ qs).symm

@[simp]
lemma ofPairs_self (d : Dictionary ν α) : ofPairs d.pairs = d := ext_bindings d.ofPairs_pairs

instance : Monoid (Dictionary ν α) where
  mul_assoc a b c := by
    rw [← ofPairs_self a, ← ofPairs_self b, ← ofPairs_self c]
    simp only [← ofPairs_append, List.append_assoc]
  one_mul a := by
    rw [← ofPairs_self a]
    exact (ofPairs_append [] _).symm
  mul_one _ := rfl

lemma ofPairs_flatten (pss : List (List (ν × α))) :
    ofPairs pss.flatten = (pss.map ofPairs).prod := by
  induction pss with
  | nil => rfl
  | cons ps pss ih => rw [List.flatten_cons, ofPairs_append, ih, List.map_cons, List.prod_cons]

end Dictionary

/-! ### Environments as products -/

/-- Pairs as a mapping that is keyed by names. -/
def keyed (ps : List (ν × α)) : List (Label ν C × α) := ps.map fun p => (.name p.1, p.2)

omit [DecidableEq ν] in
@[simp]
lemma byName_keyed (ps : List (ν × α)) : byName (keyed ps : List (Label ν C × α)) = ps := by
  simp [keyed, byName, Label.key, Function.comp_def]

/-- The dictionary that a mapping holds. -/
def heldBy (mapping : List (Label ν C × α)) : Dictionary ν α := .ofPairs (byName mapping)

@[simp]
lemma heldBy_keyed (d : Dictionary ν α) : heldBy (keyed d.pairs : List (Label ν C × α)) = d := by
  rw [heldBy, byName_keyed, Dictionary.ofPairs_self]

/-- An environment is the product of the mappings that it is made of. -/
lemma environment_eq (mappings : List (List (Label ν C × α))) (named : List (ν × α)) :
    environment mappings named =
      ((mappings.map heldBy).prod * Dictionary.ofPairs named).toBindings := by
  have hprod : (mappings.map heldBy).prod = Dictionary.ofPairs (mappings.map byName).flatten := by
    rw [Dictionary.ofPairs_flatten, List.map_map]
    rfl
  rw [hprod, ← Dictionary.ofPairs_append]
  rfl

lemma merge_eq (mappings : List (List (Label ν C × α))) :
    merge mappings = (mappings.map heldBy).prod.toBindings := by
  rw [merge, environment_eq]
  rfl

/-- Merging is associative, and the empty mapping changes nothing. -/
lemma merge_monoid (a b c : List (Label ν C × α)) :
    merge [keyed (merge [a, b]).pairs, c] = merge [a, keyed (merge [b, c]).pairs] ∧
      merge [[], a] = merge [a] ∧ merge [a, []] = merge [a] := by
  have hempty : heldBy ([] : List (Label ν C × α)) = 1 := rfl
  simp [merge_eq, hempty, mul_assoc]

/-- An environment among the mappings is as good as the mappings that it was made of. -/
lemma environment_regroup (before inner after : List (List (Label ν C × α)))
    (named named' : List (ν × α)) :
    environment (before ++ keyed (environment inner named).pairs :: after) named' =
      environment (before ++ inner ++ keyed named :: after) named' := by
  have hkeyed : heldBy (keyed named : List (Label ν C × α)) = .ofPairs named := by
    rw [heldBy, byName_keyed]
  rw [environment_eq inner, environment_eq, environment_eq]
  simp only [List.map_append, List.map_cons, List.prod_append, List.prod_cons, heldBy_keyed,
    hkeyed, mul_assoc]

end

/-! ### Mappings in a store -/

/-- A mapping in a store, and whether callers have it in their hands. -/
structure Shelved (ν C α : Type) where
  pairs : List (Label ν C × α)
  handed : Bool

/-- A store of mappings, which are referred to by their places. -/
abbrev Shelves (ν C α : Type) := List (Shelved ν C α)

namespace Shelves

/-- The pairs of the mapping in some place. -/
def pairsAt (s : Shelves ν C α) (i : ℕ) : List (Label ν C × α) := (s[i]?.map (·.pairs)).getD []

/-- The pairs of a mapping that may be left out. -/
def pairsOf (s : Shelves ν C α) (i : Option ℕ) : List (Label ν C × α) :=
  (i.map s.pairsAt).getD []

/-- The pairs of some mappings by name, one mapping after the other. -/
def pairsByName (s : Shelves ν C α) (places : List ℕ) : List (ν × α) :=
  (places.map fun i => byName (s.pairsAt i)).flatten

/-- A store as a place where mappings are kept. A new dictionary comes behind all others. -/
def shelf : Shelf (StateM (Shelves ν C α)) ℕ ν C α where
  pairs _ i s := (s.pairsAt i, s)
  truth i s := (!(s.pairsAt i).isEmpty, s)
  add b s := (s.length, s ++ [⟨keyed b.pairs, false⟩])

/-- Makes a new dictionary: its place, and the store with it. -/
abbrev make [DecidableEq ν] (s : Shelves ν C α) (a : Assembly ℕ ν α) : ℕ × Shelves ν C α :=
  shelf.assemble a s

/-- A dictionary was put behind the others, perhaps after further ones. -/
def Adds (s : Shelves ν C α) (made : ℕ × Shelves ν C α) (d : Dictionary ν α) : Prop :=
  ∃ more, made = ((s ++ more).length, s ++ more ++ [⟨keyed d.pairs, false⟩])

end Shelves

/-- The bindings of which a new dictionary is made. -/
def Assembly.given (s : Shelves ν C α) : Assembly ℕ ν α → List (ν × α)
  | .environment mappings named => s.pairsByName mappings ++ named
  | .runtime mapping => byName (s.pairsAt mapping)
  | .extend defaults mappings named =>
    byName (s.pairsAt defaults) ++ s.pairsByName mappings ++ named
  | .environmentFor defaults overrides =>
    byName (s.pairsAt defaults) ++ byName (s.pairsOf overrides)

namespace Shelves

section

variable {s : Shelves ν C α} {made : ℕ × Shelves ν C α} {d : Dictionary ν α}

lemma Adds.fresh (h : Adds s made d) : s.length ≤ made.1 := by
  obtain ⟨more, rfl⟩ := h
  rw [List.length_append]
  exact Nat.le_add_right _ _

lemma Adds.added (h : Adds s made d) : made.2[made.1]? = some ⟨keyed d.pairs, false⟩ := by
  obtain ⟨more, rfl⟩ := h
  exact List.getElem?_concat_length

/-- Mappings that there were before stay as they are. -/
lemma Adds.keeps (h : Adds s made d) {i : ℕ} (hi : i < s.length) : made.2[i]? = s[i]? := by
  obtain ⟨more, rfl⟩ := h
  rw [List.append_assoc, List.getElem?_append_left hi]

end

@[simp]
lemma shelf_pairs (known : List ν) (i : ℕ) (s : Shelves ν C α) :
    shelf.pairs known i s = (s.pairsAt i, s) := rfl

@[simp]
lemma shelf_add (b : Bindings ν α) (s : Shelves ν C α) :
    shelf.add b s = (s.length, s ++ [⟨keyed b.pairs, false⟩]) := rfl

lemma pairsOfAll_apply (known : List ν) (places : List ℕ) (s : Shelves ν C α) :
    shelf.pairsOfAll known places s = (places.map s.pairsAt, s) := by
  induction places generalizing known with
  | nil => rfl
  | cons i rest ih => simp [Shelf.pairsOfAll, bind, StateT.bind, ih, pure_apply]

lemma defaultsIn_apply (i : ℕ) (s : Shelves ν C α) :
    shelf.defaultsIn i s = (⟨s.pairsAt i⟩, s) := rfl

lemma pairsAt_of_getElem? {s : Shelves ν C α} {i : ℕ} {pairs : List (Label ν C × α)}
    {handed : Bool} (hi : s[i]? = some ⟨pairs, handed⟩) : s.pairsAt i = pairs := by
  rw [pairsAt, hi]
  rfl

/-- A mapping that is left out or empty comes to one in which nothing is, and nothing else is
changed. -/
lemma orEmpty_apply (i : Option ℕ) (s : Shelves ν C α) :
    ∃ j more, shelf.orEmpty i s = (j, s ++ more) ∧ (s ++ more).pairsAt j = s.pairsOf i ∧
      ∀ k, (s ++ more).pairsAt k = s.pairsAt k := by
  have hempty (k : ℕ) : pairsAt (s ++ [⟨[], false⟩]) k = s.pairsAt k := by
    obtain hk | rfl | hk := Nat.lt_trichotomy k s.length
    · simp [pairsAt, List.getElem?_append_left hk]
    · simp [pairsAt]
    · have hk' : (s ++ [⟨[], false⟩] : Shelves ν C α).length ≤ k := by
        simp
        omega
      rw [pairsAt, pairsAt, List.getElem?_eq_none hk', List.getElem?_eq_none (Nat.le_of_lt hk)]
  have hlast : pairsAt (s ++ [⟨[], false⟩]) s.length = [] := by simp [pairsAt]
  cases i with
  | none => exact ⟨_, _, rfl, hlast, hempty⟩
  | some i =>
    cases hi : s.pairsAt i with
    | nil =>
      refine ⟨s.length, [⟨[], false⟩], ?_, by simpa [pairsOf, hi] using hlast, hempty⟩
      simp [Shelf.orEmpty, shelf, bind, StateT.bind, hi, Bindings.empty, keyed]
    | cons p ps =>
      refine ⟨i, [], ?_, by simp [pairsOf], by simp⟩
      simp [Shelf.orEmpty, shelf, bind, StateT.bind, hi, pure_apply]

variable [DecidableEq ν]

/-- What a new dictionary is made of, and where it is put. -/
lemma make_adds (s : Shelves ν C α) (a : Assembly ℕ ν α) :
    s.Adds (s.make a) (.ofPairs (a.given s)) := by
  have hgathered (places : List ℕ) :
      ((places.map s.pairsAt).map byName).flatten = s.pairsByName places := by
    rw [pairsByName, List.map_map]
    rfl
  cases a with
  | environment mappings named =>
    have hmade : environment (mappings.map s.pairsAt) named =
        (Dictionary.ofPairs (s.pairsByName mappings ++ named)).toBindings := by
      rw [environment, hgathered]
      rfl
    refine ⟨[], ?_⟩
    simp [make, Shelf.assemble, bind, StateT.bind, pairsOfAll_apply, hmade, Assembly.given]
  | runtime mapping =>
    have hmade : (⟨s.pairsAt mapping⟩ : Defaults ν C α).bindings =
        (Dictionary.ofPairs (byName (s.pairsAt mapping))).toBindings := by
      simp [Defaults.bindings, merge, environment, Dictionary.ofPairs]
    refine ⟨[], ?_⟩
    simp [make, Shelf.assemble, bind, StateT.bind, defaultsIn_apply, hmade, Assembly.given]
  | extend defaults mappings named =>
    have hmade : ((⟨s.pairsAt defaults⟩ : Defaults ν C α).extend (mappings.map s.pairsAt)
        named).bindings = (Dictionary.ofPairs
          (byName (s.pairsAt defaults) ++ s.pairsByName mappings ++ named)).toBindings := by
      rw [Defaults.bindings_extend, environment, List.map_cons, List.flatten_cons, hgathered]
      exact Dictionary.ofPairs_pairs (.ofPairs _)
    refine ⟨[], ?_⟩
    simp [make, Shelf.assemble, bind, StateT.bind, defaultsIn_apply, pairsOfAll_apply, hmade,
      Assembly.given]
  | environmentFor defaults overrides =>
    obtain ⟨j, more, horEmpty, hj, hmore⟩ := s.orEmpty_apply overrides
    have hmade : (⟨s.pairsAt defaults⟩ : Defaults ν C α).environmentFor (s.pairsOf overrides) =
        (Dictionary.ofPairs
          (byName (s.pairsAt defaults) ++ byName (s.pairsOf overrides))).toBindings := by
      simp [Defaults.environmentFor, merge, environment, Dictionary.ofPairs]
    refine ⟨more, ?_⟩
    simp [make, Shelf.assemble, bind, StateT.bind, horEmpty, defaultsIn_apply, hj, hmore, hmade,
      Assembly.given]

/-! ### What callers do meanwhile -/

/-- What may happen to a store: callers make mappings and change those that they have in their
hands, and dictionaries are made, of whatever, which callers are given or not. -/
inductive Step (s : Shelves ν C α) : Shelves ν C α → Prop
  | written (pairs : List (Label ν C × α)) : Step s (s ++ [⟨pairs, true⟩])
  | changed {i : ℕ} {old : List (Label ν C × α)} (pairs : List (Label ν C × α)) :
    s[i]? = some ⟨old, true⟩ → Step s (s.set i ⟨pairs, true⟩)
  | kept (a : Assembly ℕ ν α) : Step s (s.make a).2
  | handedOut (a : Assembly ℕ ν α) :
    Step s ((s.make a).2.modify (s.make a).1 fun mapping => { mapping with handed := true })

/-- The store that one comes to by such steps. -/
abbrev Reaches : Shelves ν C α → Shelves ν C α → Prop := Relation.ReflTransGen Step

section

variable {s s' : Shelves ν C α} {i : ℕ} {pairs : List (Label ν C × α)}

/-- A mapping that callers do not have in their hands stays as it is. -/
lemma Step.keeps (h : Step s s') (hi : s[i]? = some ⟨pairs, false⟩) :
    s'[i]? = some ⟨pairs, false⟩ := by
  have hlt : i < s.length := (List.getElem?_eq_some_iff.1 hi).1
  cases h with
  | written => rwa [List.getElem?_append_left hlt]
  | @changed j old _ hj =>
    have hne : j ≠ i := by
      rintro rfl
      rw [hi] at hj
      cases hj
    rwa [List.getElem?_set_ne hne]
  | kept a => rwa [(make_adds s a).keeps hlt]
  | handedOut a =>
    have hne : (s.make a).1 ≠ i :=
      Nat.ne_of_gt (Nat.lt_of_lt_of_le hlt (make_adds s a).fresh)
    rwa [List.getElem?_modify_ne _ _ hne, (make_adds s a).keeps hlt]

lemma Reaches.keeps (h : Reaches s s') (hi : s[i]? = some ⟨pairs, false⟩) :
    s'[i]? = some ⟨pairs, false⟩ := by
  induction h with
  | refl => exact hi
  | tail _ hstep ih => exact hstep.keeps ih

end

end Shelves

/-- In this store there is a runtime in this place, and these are the bindings of which it was made,
those of the runtimes that it extends first. -/
inductive Lineage [DecidableEq ν] : Shelves ν C α → ℕ → List (ν × α) → Prop
  | built (s : Shelves ν C α) (mapping : ℕ) :
    Lineage (s.make (.runtime mapping)).2 (s.make (.runtime mapping)).1 (byName (s.pairsAt mapping))
  | extended {s : Shelves ν C α} {r : ℕ} {given : List (ν × α)} (mappings : List ℕ)
      (named : List (ν × α)) :
    Lineage s r given →
    Lineage (s.make (.extend r mappings named)).2 (s.make (.extend r mappings named)).1
      (given ++ s.pairsByName mappings ++ named)
  | later {s s' : Shelves ν C α} {r : ℕ} {given : List (ν × α)} :
    Lineage s r given → Shelves.Step s s' → Lineage s' r given

section

variable [DecidableEq ν] {s : Shelves ν C α} {r : ℕ} {given : List (ν × α)}

/-- A runtime holds what it was made of, and callers do not have it in their hands. -/
lemma Lineage.holds (h : Lineage s r given) :
    s[r]? = some ⟨keyed (Dictionary.ofPairs given).pairs, false⟩ := by
  induction h with
  | built s mapping => exact (Shelves.make_adds s _).added
  | @extended s r given mappings named _ ih =>
    have hadded := (Shelves.make_adds s (.extend r mappings named)).added
    rw [Assembly.given, Shelves.pairsAt_of_getElem? ih, byName_keyed, Dictionary.ofPairs_append,
      Dictionary.ofPairs_append, Dictionary.ofPairs_self, ← Dictionary.ofPairs_append,
      ← Dictionary.ofPairs_append] at hadded
    exact hadded
  | later _ hstep ih => exact hstep.keeps ih

/-- The environment of a run tells nothing of what was default and what was overriding. -/
lemma Lineage.environmentFor (h : Lineage s r given) (overrides : Option ℕ) :
    let made := s.make (.environmentFor r overrides)
    made.2[made.1]? = some
      ⟨keyed (Dictionary.ofPairs (given ++ byName (s.pairsOf overrides))).pairs, false⟩ := by
  intro made
  have hadded := (Shelves.make_adds s (.environmentFor r overrides)).added
  rw [Assembly.given, Shelves.pairsAt_of_getElem? h.holds, byName_keyed, Dictionary.ofPairs_append,
    Dictionary.ofPairs_self, ← Dictionary.ofPairs_append] at hadded
  exact hadded

end

/-! ### Runs -/

/-- The value under this very name. -/
def namedIn [DecidableEq ν] (name : ν) (pairs : List (Label ν C × α)) : Option α :=
  pairs.findSome? fun p => match p.1 with
    | .name n => if n = name then some p.2 else none
    | .token _ => none

lemma namedIn_keyed [DecidableEq ν] (name : ν) (ps : List (ν × α)) :
    namedIn name (keyed ps : List (Label ν C × α)) = Bindings.find? name ps := by
  induction ps with
  | nil => rfl
  | cons p ps ih =>
    have hcons : namedIn name (keyed (p :: ps) : List (Label ν C × α)) =
        (if p.1 = name then some p.2 else none).or
          (namedIn name (keyed ps : List (Label ν C × α))) := by
      by_cases h : p.1 = name <;> simp [namedIn, keyed, h]
    rw [hcons, ih, Bindings.find?]
    by_cases h : p.1 = name <;> simp [h]

/-- Looks names up in the dictionary in some place of a store, as it is then. -/
def Shelves.lookup [DecidableEq V] (κ : MissingKeys V E) (i : ℕ) :
    Lookup (StateM (Shelves V C V × τ)) V V E :=
  fun name x => ((namedIn name (x.1.pairsAt i)).elim (.error (κ.missing name)) .ok, x)

section

variable [ValueLike V] [ErrorLike E] {m : Manner}

/-- Hosts that agree as long as something holds, and keep it, conduct a run alike. -/
lemma Run.conduct_congr {host host' : Host V E σ} {I : σ → Prop}
    (hagree : ∀ q s, I s → host q s = host' q s) (hkeep : ∀ q s, I s → I (host' q s).2) (fuel : ℕ)
    (run : Run V E) {s : σ} (hs : I s) :
    run.conduct m host fuel s = run.conduct m host' fuel s := by
  induction fuel generalizing run s with
  | zero => rfl
  | succ fuel ih =>
    match run with
    | .over _ => rfl
    | .active waiting (.done v) => exact ih (v.next m waiting) hs
    | .active waiting (.ask q next) =>
      simp only [Run.conduct, bind, StateT.bind, hagree q s hs]
      exact ih _ (hkeep q s hs)

/-- A run whose environment callers do not have in their hands is given what was in there. -/
lemma Shelves.conduct_lookup [DecidableEq V] (κ : MissingKeys V E) {i : ℕ} {d : Dictionary V V}
    {host : Host V E (Shelves V C V × τ)} (hhost : ∀ q x, Reaches x.1 (host q x).2.1) (fuel : ℕ)
    (run : Run V E) {x : Shelves V C V × τ} (hx : x.1[i]? = some ⟨keyed d.pairs, false⟩) :
    run.conduct m (host.consulting κ.toAbsence (lookup κ i)) fuel x =
      run.conduct m (host.consulting κ.toAbsence fun name y => (d.lookup κ name, y)) fuel x := by
  refine Run.conduct_congr (I := fun y => y.1[i]? = some ⟨keyed d.pairs, false⟩)
    (fun q y hy => ?_) (fun q y hy => ?_) fuel run hx
  · have hlookup (name : V) : lookup κ i name y = (d.lookup κ name, y) := by
      rw [lookup, pairsAt_of_getElem? hy, namedIn_keyed, Dictionary.lookup, Bindings.get?]
    cases q <;> simp [Host.consulting, hlookup]
  · cases q with
    | find name => exact hy
    | _ => exact (hhost _ y).keeps hy

end

/-- **What programs are given does not depend on how bindings are grouped.** Keys are names or
tokens with names, and a mapping may have several keys of one name.

* An environment has the names of all pairs, keyword implementations last, each once and in the
  order in which they come first, with the values that come last, and nothing else. An environment
  among the mappings is as good as what it was made of, so merging is associative, the empty mapping
  changes nothing, and neither does merging again.
* What is made of mappings in a store is a new dictionary; all mappings stay as they are.
* A runtime holds the bindings of which it and those that it extends were made, whatever callers
  did to their mappings since. Its environment for a run is made of these and the overrides, and
  only their concatenation tells.
* Whatever happens after such an environment was made and while the run goes on, the program is
  given what the overridden defaults were then. -/
theorem bindings_are_not_grouped [DecidableEq ν] [DecidableEq V] [ValueLike V] [ErrorLike E]
    (κ : MissingKeys V E) :
    (∀ (mappings : List (List (Label ν C × α))) (named : List (ν × α)),
      let given := (mappings.map byName).flatten ++ named
      let b := environment mappings named
      b.names = (given.map (·.1)).eraseDups ∧
        (∀ n, b.get? n = Bindings.find? n given.reverse) ∧
        b.pairs = (b.names.filterMap fun n => (b.get? n).map (n, ·)) ∧
        merge [(keyed b.pairs : List (Label ν C × α))] = b) ∧
    (∀ (before inner after : List (List (Label ν C × α))) (named named' : List (ν × α)),
      environment (before ++ keyed (environment inner named).pairs :: after) named' =
        environment (before ++ inner ++ keyed named :: after) named') ∧
    (∀ a b c : List (Label ν C × α),
      merge [keyed (merge [a, b]).pairs, c] = merge [a, keyed (merge [b, c]).pairs] ∧
        merge [[], a] = merge [a] ∧ merge [a, []] = merge [a]) ∧
    (∀ (s : Shelves ν C α) (a : Assembly ℕ ν α),
      let made := s.make a
      s.length ≤ made.1 ∧
        made.2[made.1]? = some ⟨keyed (Dictionary.ofPairs (a.given s)).pairs, false⟩ ∧
        ∀ i < s.length, made.2[i]? = s[i]?) ∧
    (∀ (s : Shelves ν C α) (r : ℕ) (given : List (ν × α)), Lineage s r given →
      s[r]? = some ⟨keyed (Dictionary.ofPairs given).pairs, false⟩ ∧
        ∀ overrides,
          let made := s.make (.environmentFor r overrides)
          made.2[made.1]? = some
            ⟨keyed (Dictionary.ofPairs (given ++ byName (s.pairsOf overrides))).pairs, false⟩) ∧
    ∀ (s : Shelves V C V) (r : ℕ) (given : List (V × V)), Lineage s r given →
      ∀ overrides s',
        let made := s.make (.environmentFor r overrides)
        let d := Dictionary.ofPairs (given ++ byName (s.pairsOf overrides))
        Shelves.Reaches made.2 s' →
        ∀ host : Host V E (Shelves V C V × τ),
          (∀ q x, Shelves.Reaches x.1 (host q x).2.1) →
          ∀ (m : Manner) (program : V) (fuel : ℕ) (t : τ),
            (Run.start m program).conduct m
                (host.consulting κ.toAbsence (Shelves.lookup κ made.1)) fuel (s', t) =
              (Run.start m program).conduct m
                (host.consulting κ.toAbsence fun name x => (d.lookup κ name, x)) fuel (s', t) := by
  refine ⟨fun mappings named => ?_, environment_regroup, merge_monoid, fun s a => ?_,
    fun s r given h => ⟨h.holds, h.environmentFor⟩, ?_⟩
  · intro given b
    have hnames : b.names = (given.map (·.1)).eraseDups := by
      have hb : b.names = unseen [] (given.map (·.1)) := Dictionary.names_ofPairs given
      rw [hb, unseen_eq]
      simp
    have hagain : merge [(keyed b.pairs : List (Label ν C × α))] = b := by
      rw [merge_eq, List.map_singleton, List.prod_singleton]
      exact congrArg Dictionary.toBindings (heldBy_keyed (.ofPairs given))
    exact ⟨hnames, Dictionary.get?_ofPairs given, (Dictionary.ofPairs given).pairs_eq, hagain⟩
  · have hadds := Shelves.make_adds s a
    exact ⟨hadds.fresh, hadds.added, fun i => hadds.keeps⟩
  · intro s r given h overrides s' made d hreach host hhost m program fuel t
    exact Shelves.conduct_lookup κ hhost fuel _ (hreach.keeps (h.environmentFor overrides))

/-! ### A mapping that is emptied while a run goes on -/

section

open Script

/-- Missing services are told by one error, which is a missing key. -/
def spentMissing : MissingKeys Value Fault where
  toAbsence := spentKeys
  isMissingKey e := e matches .spent
  isMissingKey_missing _ := rfl

/-- The caller that made the first mapping empties it. -/
def Shelves.emptied : Shelves Value Unit Value → Shelves Value Unit Value
  | ⟨_, true⟩ :: rest => ⟨[], true⟩ :: rest
  | s => s

lemma Shelves.reaches_emptied (s : Shelves Value Unit Value) : Reaches s s.emptied := by
  match s with
  | [] | ⟨_, false⟩ :: _ => exact .refl
  | ⟨pairs, true⟩ :: rest =>
    have hfirst : (⟨pairs, true⟩ :: rest : Shelves Value Unit Value)[0]? = some ⟨pairs, true⟩ := rfl
    exact .single (.changed [] hfirst)

/-- A host that counts how often the program is resumed. The program yields the token `2`, and
meanwhile the first mapping is emptied; then it ends with what it is given. -/
def emptying : Host Value Fault (Shelves Value Unit Value × ℕ)
  | .resume _ _ (.send v), (s, n + 1) => (.ends v, s, n + 2)
  | .resume .., (s, n) => (.yields (.object 2), s.emptied, n + 1)
  | q, (s, n) => ((declaring (fun _ => .error .spent) q n).1, s, n)

lemma emptying_reaches (q : Request Value Fault) (x : Shelves Value Unit Value × ℕ) :
    Shelves.Reaches x.1 (emptying q x).2.1 := by
  obtain ⟨s, n⟩ := x
  cases q with
  | resume via p how =>
    cases how with
    | send v =>
      cases n with
      | zero => exact s.reaches_emptied
      | succ n => exact .refl
    | throw e => exact s.reaches_emptied
  | _ => exact .refl

/-- A runtime is extended by the mapping of which it was made, and the program is given what the
mapping held then. -/
theorem emptied_mapping_is_not_consulted :
    let key : Label Value Unit := .token ⟨.object 2, ()⟩
    let s : Shelves Value Unit Value := [⟨[(key, .object 7)], true⟩]
    let built := s.make (.runtime 0)
    let extended := built.2.make (.extend built.1 [0] [(.object 3, .object 8)])
    let made := extended.2.make (.environmentFor extended.1 none)
    Lineage extended.2 extended.1
        [(.object 2, .object 7), (.object 2, .object 7), (.object 3, .object 8)] ∧
      Shelves.Reaches made.2 made.2.emptied ∧
      (∀ q x, Shelves.Reaches x.1 (emptying q x).2.1) ∧
      ((Run.start .cooperative (.object 0)).conduct .cooperative
        (emptying.consulting spentKeys (Shelves.lookup spentMissing made.1)) 40
        (made.2.emptied, 0)).1 = some (.ok (.object 7)) := by
  intro key s built extended made
  have hpairs : byName (s.pairsAt 0) ++ built.2.pairsByName [0] ++ [(.object 3, .object 8)] =
      [(.object 2, .object 7), (.object 2, .object 7), (.object 3, .object 8)] := rfl
  have hlineage := Lineage.extended [0] [(.object 3, .object 8)] (Lineage.built s 0)
  rw [hpairs] at hlineage
  have hgiven := (bindings_are_not_grouped (ν := Value) (C := Unit) (α := Value) (τ := ℕ)
    spentMissing).2.2.2.2.2 extended.2 extended.1 _ hlineage none _ made.2.reaches_emptied emptying
    emptying_reaches .cooperative (.object 0) 40 0
  refine ⟨hlineage, made.2.reaches_emptied, emptying_reaches, ?_⟩
  exact (congrArg Prod.fst hgiven).trans rfl

end

end Provision
