import Mathlib.Algebra.FreeMonoid.Basic
import Mathlib.Algebra.Group.Prod
import Provision.Proofs.Regrouping

/-!
Arguments: giving further arguments to a service program is an action of a monoid.

Positional arguments are words and named ones are dictionaries, so what a chain of calls gives is
told by one product, in which nothing says where one call ends and the next begins. Every call makes
a new service program of the parts of another one, and all of these go through the conversions of a
declaration again. Its parts are in places that callers do not have in their hands, so that they
stay as they are.

* `Declared.foldl_given`: a chain of calls gives the product of what the calls give;
* `Stock.declare_makeUp`: what a declaration makes of a mapping or of tokens;
* `Stock.withArgs_apply`: what a call makes of a service program, and where it puts that;
* `Family.holds`: all service programs of a family have their own arguments, whatever happens;
* `further_arguments_add_up`: all of this, and the one call of a factory in a run.
-/

namespace Provision

variable {V E κ τ α : Type}

/-! ### The action -/

/-- Further arguments: positional ones, and named ones, each name once. -/
abbrev Further (V κ : Type) := FreeMonoid V × Dictionary κ V

/-- A service program in which no name comes twice. -/
structure Declared (V κ : Type) where
  services : Dictionary κ V
  factory : V
  positional : List V
  named : Dictionary κ V

namespace Declared

/-- The service program that is declared. -/
def program (c : Declared V κ) : ServiceProgram V κ :=
  ⟨c.services.toBindings, c.factory, c.positional, c.named.toBindings⟩

variable [DecidableEq κ]

/-- The same program with further arguments after those that it has. -/
def given (c : Declared V κ) (a : Further V κ) : Declared V κ :=
  { c with positional := c.positional ++ a.1.toList, named := c.named * a.2 }

@[simp]
lemma given_one (c : Declared V κ) : c.given 1 = c := by simp [given]

lemma given_mul (c : Declared V κ) (a b : Further V κ) :
    c.given (a * b) = (c.given a).given b := by
  simp [given, mul_assoc]

/-- A chain of calls is one call. -/
lemma foldl_given (c : Declared V κ) (calls : List (Further V κ)) :
    calls.foldl given c = c.given calls.prod := by
  induction calls generalizing c with
  | nil => simp
  | cons a calls ih => rw [List.foldl_cons, ih, List.prod_cons, given_mul]

end Declared

section

variable [DecidableEq κ]

/-- The positional arguments of a chain of calls are those of the calls in order. -/
lemma prod_positional (calls : List (Further V κ)) :
    calls.prod.1.toList = calls.flatMap (·.1.toList) := by
  induction calls with
  | nil => rfl
  | cons a calls ih => simp [ih]

/-- The named arguments of a chain of calls are made by the pairs of the calls in order. -/
lemma prod_named (calls : List (Further V κ)) :
    calls.prod.2 = .ofPairs (calls.flatMap (·.2.pairs)) := by
  induction calls with
  | nil => rfl
  | cons a calls ih =>
    rw [List.prod_cons, Prod.snd_mul, ih, List.flatMap_cons, Dictionary.ofPairs_append,
      Dictionary.ofPairs_self]

end

/-! ### What is kept in a store -/

/-- What is kept in one place. -/
inductive Matter (V κ : Type) where
  | sequence (items : List V)
  /-- A mapping. It may be a plain dictionary, or anything else that has such entries. -/
  | mapping (plain : Bool) (d : Dictionary κ V)

/-- Something in a store, and whether callers have it in their hands. -/
structure Stored (V κ : Type) where
  matter : Matter V κ
  handed : Bool

/-- A store of what service programs are made of, which is referred to by its place. -/
abbrev Stock (V κ : Type) := List (Stored V κ)

namespace Matter

def isMapping : Matter V κ → Bool
  | .sequence _ => false
  | .mapping .. => true

def items : Matter V κ → List V
  | .sequence items => items
  | .mapping .. => []

variable [DecidableEq κ]

def dictionary : Matter V κ → Dictionary κ V
  | .sequence _ => 1
  | .mapping _ d => d

/-- The services that are given in this way. -/
def services (nameOf : V → κ) : Matter V κ → Dictionary κ V
  | .sequence tokens => .ofPairs (tokens.map fun t => (nameOf t, t))
  | .mapping _ d => d

end Matter

namespace Stock

/-- What is in some place. -/
def matter (s : Stock V κ) (i : ℕ) : Matter V κ := (s[i]?.map (·.matter)).getD (.sequence [])

/-- The items of a sequence that may be left out. -/
def itemsOf (s : Stock V κ) (i : Option ℕ) : List V := (i.map fun i => (s.matter i).items).getD []

/-- The dictionary of a mapping that may be left out. -/
def dictionaryOf [DecidableEq κ] (s : Stock V κ) (i : Option ℕ) : Dictionary κ V :=
  (i.map fun i => (s.matter i).dictionary).getD 1

/-- This is in the place, and callers may have it in their hands. -/
def Has (s : Stock V κ) (i : ℕ) (y : Matter V κ) : Prop := ∃ handed, s[i]? = some ⟨y, handed⟩

/-- This is in the place, and callers do not have it in their hands. -/
def Keeps (s : Stock V κ) (i : ℕ) (y : Matter V κ) : Prop := s[i]? = some ⟨y, false⟩

section

variable {s : Stock V κ} {i : ℕ} {y : Matter V κ}

lemma Keeps.has (h : s.Keeps i y) : s.Has i y := ⟨false, h⟩

lemma Has.matter (h : s.Has i y) : s.matter i = y := by
  obtain ⟨handed, hi⟩ := h
  rw [Stock.matter, hi]
  rfl

lemma Has.append (h : s.Has i y) (more : Stock V κ) : (s ++ more).Has i y := by
  obtain ⟨handed, hi⟩ := h
  exact ⟨handed, (List.getElem?_append_left (List.getElem?_eq_some_iff.1 hi).1).trans hi⟩

lemma Keeps.append (h : s.Keeps i y) (more : Stock V κ) : (s ++ more).Keeps i y :=
  (List.getElem?_append_left (List.getElem?_eq_some_iff.1 h).1).trans h

lemma keeps_added (s : Stock V κ) (y : Matter V κ) :
    (s ++ [⟨y, false⟩] : Stock V κ).Keeps s.length y := List.getElem?_concat_length

end

/-! ### Making service programs -/

/-- Tells something of a store. -/
def tell (f : Stock V κ → α) : StateM (Stock V κ × τ) α := fun x => (f x.1, x)

/-- Puts something behind all else. -/
def add (y : Matter V κ) : StateM (Stock V κ × τ) ℕ := fun x =>
  (x.1.length, x.1 ++ [⟨y, false⟩], x.2)

section

variable [DecidableEq κ] (nameOf : V → κ)

/-- A store, beside anything else, as the place where service programs are made. -/
def workshop : Workshop (StateM (Stock V κ × τ)) ℕ V κ κ where
  isMapping i := tell fun s => (s.matter i).isMapping
  entries i := tell fun s => (s.matter i).dictionary.pairs
  named i := tell fun s => (s.matter i).items.map fun t => (nameOf t, t)
  items i := tell fun s => (s.matter i).items
  keywords i := tell fun s => (s.matter i).dictionary.pairs
  dictionary? i := tell fun s => match s.matter i with
    | .mapping true d => some d.toBindings
    | _ => none
  tuple? i := tell fun s => match s.matter i with
    | .sequence items => some items
    | _ => none
  addDictionary b := add (.mapping true (.ofPairs b.pairs))
  addPairs pairs := add (.mapping true (.ofPairs pairs))
  addTuple items := add (.sequence items)

/-- Declares a service program; further arguments may be left out. -/
def declare (services : ℕ) (factory : V) (arguments keywords : Option ℕ) :
    StateM (Stock V κ × τ) (Parts ℕ V) :=
  (workshop nameOf).declare services factory arguments keywords

/-- Further arguments in new places, whatever mapping the keyword arguments are. -/
def widen (p : Parts ℕ V) (a : Further V κ) : StateM (Stock V κ × τ) (ℕ × ℕ) := do
  let w := workshop nameOf
  let arguments ← w.addTuple ((← w.items p.arguments) ++ a.1.toList)
  return (arguments, ← w.addPairs ((← w.keywords p.keywords) ++ a.2.pairs))

/-- Makes a service program of another one by further arguments. -/
def withArgs (p : Parts ℕ V) (a : Further V κ) : StateM (Stock V κ × τ) (Parts ℕ V) :=
  (workshop nameOf).withArgs p a.1.toList a.2.pairs (widen nameOf p a) fun made =>
    declare nameOf made.services made.factory (some made.arguments) (some made.keywords)

end

end Stock

/-- In these places there is what a service program is made of. -/
structure Parts.MakeUp (kept : ℕ → Matter V κ → Prop) (p : Parts ℕ V) (c : Declared V κ) :
    Prop where
  factory : p.factory = c.factory
  services : kept p.services (.mapping true c.services)
  arguments : kept p.arguments (.sequence c.positional)
  keywords : ∃ plain, kept p.keywords (.mapping plain c.named)

lemma Parts.MakeUp.mono {kept kept' : ℕ → Matter V κ → Prop} {p : Parts ℕ V} {c : Declared V κ}
    (h : p.MakeUp kept c) (hk : ∀ i y, kept i y → kept' i y) : p.MakeUp kept' c where
  factory := h.factory
  services := hk _ _ h.services
  arguments := hk _ _ h.arguments
  keywords := h.keywords.imp fun _ => hk _ _

namespace Stock

/-- This service program is there, and callers may have its parts in their hands. -/
abbrev Shows (s : Stock V κ) (p : Parts ℕ V) (c : Declared V κ) : Prop := p.MakeUp s.Has c

/-- This service program is there, and callers do not have its parts in their hands. -/
abbrev Holds (s : Stock V κ) (p : Parts ℕ V) (c : Declared V κ) : Prop := p.MakeUp s.Keeps c

lemma Holds.shows {s : Stock V κ} {p : Parts ℕ V} {c : Declared V κ} (h : s.Holds p c) :
    s.Shows p c := h.mono fun _ _ => Keeps.has

/-- There is one service program in the same places. -/
lemma Shows.unique {s : Stock V κ} {p : Parts ℕ V} {c d : Declared V κ} (hc : s.Shows p c)
    (hd : s.Shows p d) : c = d := by
  have hservices := hc.services.matter.symm.trans hd.services.matter
  have harguments := hc.arguments.matter.symm.trans hd.arguments.matter
  obtain ⟨_, hkc⟩ := hc.keywords
  obtain ⟨_, hkd⟩ := hd.keywords
  have hkeywords := hkc.matter.symm.trans hkd.matter
  have hfactory := hc.factory.symm.trans hd.factory
  cases c
  cases d
  simp_all

@[simp]
lemma tell_apply (f : Stock V κ → α) (x : Stock V κ × τ) : tell f x = (f x.1, x) := rfl

@[simp]
lemma add_apply (y : Matter V κ) (x : Stock V κ × τ) :
    add y x = (x.1.length, x.1 ++ [⟨y, false⟩], x.2) := rfl

section

variable [DecidableEq κ] {nameOf : V → κ} {x : Stock V κ × τ} {i : ℕ} {y : Matter V κ}
  {p : Parts ℕ V} {c : Declared V κ}

@[simp]
lemma addTuple_apply (items : List V) (x : Stock V κ × τ) :
    (workshop nameOf).addTuple items x =
      (x.1.length, x.1 ++ [⟨.sequence items, false⟩], x.2) := rfl

@[simp]
lemma addDictionary_apply (d : Dictionary κ V) (x : Stock V κ × τ) :
    (workshop nameOf).addDictionary d.toBindings x =
      (x.1.length, x.1 ++ [⟨.mapping true d, false⟩], x.2) := by
  show add (.mapping true (.ofPairs d.pairs)) x = _
  rw [add_apply, Dictionary.ofPairs_self]

/-- Services become a new dictionary, however they are given. -/
lemma servicesByName_apply (h : x.1.Has i y) : (workshop nameOf).servicesByName i x =
    (x.1.length, x.1 ++ [⟨.mapping true (y.services nameOf), false⟩], x.2) := by
  cases y <;>
    simp [Workshop.servicesByName, workshop, bind, StateT.bind, h.matter, Matter.isMapping,
      Matter.items, Matter.dictionary, Matter.services]

/-- Arguments become a new tuple. -/
lemma argumentsOf_apply (arguments : Option ℕ) (x : Stock V κ × τ) :
    (workshop nameOf).argumentsOf arguments x =
      (x.1.length, x.1 ++ [⟨.sequence (x.1.itemsOf arguments), false⟩], x.2) := by
  cases arguments <;> rfl

/-- Keyword arguments stay where they are, if they are given. -/
lemma keywordsOf_apply (keywords : Option ℕ) (x : Stock V κ × τ) :
    (workshop nameOf).keywordsOf keywords x =
      keywords.elim (x.1.length, x.1 ++ [⟨.mapping true 1, false⟩], x.2) fun k => (k, x) := by
  cases keywords with
  | none => exact addDictionary_apply 1 x
  | some k => rfl

omit [DecidableEq κ] in
/-- The arguments of a declaration are there before it. -/
lemma itemsOf_append {s : Stock V κ} {arguments : Option ℕ}
    (h : ∀ a ∈ arguments, ∃ items, s.Has a (.sequence items)) (more : Stock V κ) :
    (s ++ more).itemsOf arguments = s.itemsOf arguments := by
  cases arguments with
  | none => rfl
  | some a =>
    obtain ⟨items, ha⟩ := h a rfl
    simp [itemsOf, ha.matter, (ha.append more).matter]

/-- A declaration puts the services and the arguments into new places. Keyword arguments stay where
they are, if they are given. -/
lemma declare_apply {arguments keywords : Option ℕ} {f : V} (hs : x.1.Has i y)
    (ha : ∀ a ∈ arguments, ∃ items, x.1.Has a (.sequence items)) :
    let made : Stock V κ := x.1 ++ [⟨.mapping true (y.services nameOf), false⟩,
      ⟨.sequence (x.1.itemsOf arguments), false⟩]
    declare nameOf i f arguments keywords x = keywords.elim
      (⟨x.1.length, f, x.1.length + 1, x.1.length + 2⟩,
        made ++ [⟨.mapping true 1, false⟩], x.2)
      fun k => (⟨x.1.length, f, x.1.length + 1, k⟩, made, x.2) := by
  cases keywords <;>
    simp [declare, Workshop.declare, bind, StateT.bind, servicesByName_apply hs, argumentsOf_apply,
      itemsOf_append ha, keywordsOf_apply, pure_apply]

/-- What a declaration makes of services and arguments. Callers have nothing of it in their hands
but the keyword arguments, if they had these before. -/
lemma declare_makeUp (kept : Stock V κ → ℕ → Matter V κ → Prop)
    (hkeeps : ∀ s i y, Keeps s i y → kept s i y)
    (happend : ∀ s i y more, kept s i y → kept (s ++ more) i y) {arguments keywords : Option ℕ}
    {f : V} (hs : x.1.Has i y) (ha : ∀ a ∈ arguments, ∃ items, x.1.Has a (.sequence items))
    (hk : ∀ k ∈ keywords, ∃ plain, kept x.1 k (.mapping plain (x.1.dictionaryOf keywords))) :
    let made := declare nameOf i f arguments keywords x
    made.1.MakeUp (kept made.2.1)
      ⟨y.services nameOf, f, x.1.itemsOf arguments, x.1.dictionaryOf keywords⟩ := by
  intro made
  let services : Matter V κ := .mapping true (y.services nameOf)
  let items : Matter V κ := .sequence (x.1.itemsOf arguments)
  have hservices : Keeps (x.1 ++ [⟨services, false⟩, ⟨items, false⟩]) x.1.length services := by
    have hadded := (keeps_added x.1 services).append [⟨items, false⟩]
    rwa [List.append_assoc] at hadded
  have hitems : Keeps (x.1 ++ [⟨services, false⟩, ⟨items, false⟩]) (x.1.length + 1) items := by
    have hadded := keeps_added (x.1 ++ [⟨services, false⟩]) items
    rwa [List.append_assoc, List.length_append] at hadded
  have hmade : made = _ := declare_apply hs ha
  rw [hmade]
  cases keywords with
  | none =>
    have hempty := keeps_added (x.1 ++ [⟨services, false⟩, ⟨items, false⟩]) (.mapping true 1)
    rw [List.length_append] at hempty
    exact ⟨rfl, hkeeps _ _ _ (hservices.append _), hkeeps _ _ _ (hitems.append _),
      true, hkeeps _ _ _ hempty⟩
  | some k =>
    exact ⟨rfl, hkeeps _ _ _ hservices, hkeeps _ _ _ hitems,
      (hk k rfl).imp fun plain h => happend _ _ _ _ h⟩

/-- The parts of a service program are read as its contents, unless its keyword arguments are not in
a dictionary. -/
lemma contents?_apply (nameOf : V → κ) (h : x.1.Shows p c) :
    (workshop nameOf).contents? p x = (some c.program, x) ∨
      (workshop nameOf).contents? p x = (none, x) := by
  obtain ⟨plain, hk⟩ := h.keywords
  cases plain <;>
    simp [Workshop.contents?, workshop, bind, StateT.bind, h.services.matter, h.arguments.matter,
      hk.matter, pure_apply, Declared.program, h.factory]

/-- The tokens of a service program are read from its services. -/
lemma tokensOf_apply (h : x.1.Shows p c) (otherwise : StateM (Stock V κ × τ) (List V)) :
    (workshop nameOf).tokensOf p.services otherwise x = (c.program.tokens, x) := by
  simp [Workshop.tokensOf, workshop, bind, StateT.bind, h.services.matter, Declared.program,
    ServiceProgram.tokens, pure_apply]

/-- The further arguments are put into new places with those that there are. -/
lemma widen_apply (h : x.1.Shows p c) (a : Further V κ) : widen nameOf p a x =
    ((x.1.length, x.1.length + 1), x.1 ++ [⟨.sequence (c.given a).positional, false⟩,
      ⟨.mapping true (c.given a).named, false⟩], x.2) := by
  obtain ⟨plain, hk⟩ := h.keywords
  have hnamed : Dictionary.ofPairs (c.named.pairs ++ a.2.pairs) = (c.given a).named := by
    rw [Dictionary.ofPairs_append, Dictionary.ofPairs_self, Dictionary.ofPairs_self, Declared.given]
  have hkeywords := (hk.append [⟨.sequence (c.given a).positional, false⟩]).matter
  have hpositional : c.positional ++ a.1.toList = (c.given a).positional := rfl
  simp [widen, workshop, bind, StateT.bind, h.arguments.matter, Matter.items, hpositional,
    hkeywords, Matter.dictionary, hnamed, pure_apply]

/-- A call puts all arguments into new places, and from there everything goes through a declaration
again. -/
lemma withArgs_apply (h : x.1.Shows p c) (a : Further V κ) : withArgs nameOf p a x =
    (⟨x.1.length + 2, c.factory, x.1.length + 3, x.1.length + 1⟩, x.1 ++
      [⟨.sequence (c.given a).positional, false⟩, ⟨.mapping true (c.given a).named, false⟩,
        ⟨.mapping true c.services, false⟩, ⟨.sequence (c.given a).positional, false⟩], x.2) := by
  let arguments : Stored V κ := ⟨.sequence (c.given a).positional, false⟩
  let keywords : Stored V κ := ⟨.mapping true (c.given a).named, false⟩
  have hservices : (x.1 ++ [arguments, keywords]).Has p.services (.mapping true c.services) :=
    h.services.append _
  have harguments : (x.1 ++ [arguments, keywords]).Has x.1.length arguments.matter := by
    have hadded := (keeps_added x.1 arguments.matter).append [keywords]
    rw [List.append_assoc] at hadded
    exact hadded.has
  have hwidened : withArgs nameOf p a x = declare nameOf p.services p.factory (some x.1.length)
      (some (x.1.length + 1)) (x.1 ++ [arguments, keywords], x.2) := by
    obtain hcontents | hcontents := contents?_apply nameOf h
    · have hprogram : (c.program.withArgs a.1.toList a.2.pairs).arguments =
          ⟨(c.given a).positional, (c.given a).named.toBindings⟩ := rfl
      simp [withArgs, Workshop.withArgs, bind, StateT.bind, hcontents, hprogram, pure_apply,
        arguments, keywords]
    · simp [withArgs, Workshop.withArgs, bind, StateT.bind, hcontents, widen_apply h, arguments,
        keywords]
  rw [hwidened, declare_apply hservices fun _ hr => ⟨_, Option.some.inj hr ▸ harguments⟩]
  simp [itemsOf, harguments.matter, arguments, keywords, Matter.items, h.factory, Matter.services]

/-- The new service program has the further arguments, and callers have nothing of it. -/
lemma withArgs_holds (h : x.1.Shows p c) (a : Further V κ) :
    (withArgs nameOf p a x).2.1.Holds (withArgs nameOf p a x).1 (c.given a) := by
  rw [withArgs_apply h a]
  refine ⟨rfl, ?_, ?_, true, ?_⟩ <;> simp [Keeps, Declared.given]

/-- Nothing is changed by a call but that something is put behind all else. -/
lemma withArgs_adds (nameOf : V → κ) (h : x.1.Shows p c) (a : Further V κ) :
    ∃ more, (withArgs nameOf p a x).2 = (x.1 ++ more, x.2) := by
  rw [withArgs_apply h a]
  exact ⟨_, rfl⟩

end

/-! ### What happens meanwhile -/

/-- What may happen to a store: things are put behind all else, by whomever, and callers change what
they have in their hands. -/
inductive Step (s : Stock V κ) : Stock V κ → Prop
  | added (more : Stock V κ) : Step s (s ++ more)
  | changed {i : ℕ} {old : Matter V κ} (new : Matter V κ) :
    s[i]? = some ⟨old, true⟩ → Step s (s.set i ⟨new, true⟩)

/-- The store that one comes to by such steps. -/
abbrev Reaches : Stock V κ → Stock V κ → Prop := Relation.ReflTransGen Step

section

variable {s s' : Stock V κ} {i : ℕ} {y : Matter V κ} {p : Parts ℕ V} {c : Declared V κ}

/-- What callers do not have in their hands stays as it is. -/
lemma Step.keeps (h : Step s s') (hi : s.Keeps i y) : s'.Keeps i y := by
  cases h with
  | added more => exact hi.append more
  | @changed j old _ hj =>
    have hne : j ≠ i := by
      rintro rfl
      rw [Keeps] at hi
      rw [hi] at hj
      cases hj
    rwa [Keeps, List.getElem?_set_ne hne]

lemma Reaches.keeps (h : Reaches s s') (hi : s.Keeps i y) : s'.Keeps i y := by
  induction h with
  | refl => exact hi
  | tail _ hstep ih => exact hstep.keeps ih

lemma Reaches.holds (h : Reaches s s') (hp : s.Holds p c) : s'.Holds p c :=
  hp.mono fun _ _ => h.keeps

end

end Stock

/-- In this store there are these service programs, each with the calls that lead to it from the one
that was declared, the latest first. What callers may do to the keyword arguments that they gave to
a declaration is not promised, so that such a service program is itself not in the family. -/
inductive Family [DecidableEq κ] (nameOf : V → κ) (c : Declared V κ) :
    Stock V κ × τ → List (Parts ℕ V × List (Further V κ)) → Prop
  | declared {x : Stock V κ × τ} {p : Parts ℕ V} : x.1.Holds p c → Family nameOf c x [(p, [])]
  | derived {x : Stock V κ × τ} {p : Parts ℕ V} (a : Further V κ) : x.1.Shows p c →
    Family nameOf c (Stock.withArgs nameOf p a x).2 [((Stock.withArgs nameOf p a x).1, [a])]
  | called {x : Stock V κ × τ} {members : List (Parts ℕ V × List (Further V κ))} {p : Parts ℕ V}
      {calls : List (Further V κ)} (a : Further V κ) :
    Family nameOf c x members → (p, calls) ∈ members →
    Family nameOf c (Stock.withArgs nameOf p a x).2
      (((Stock.withArgs nameOf p a x).1, calls ++ [a]) :: members)
  | later {x x' : Stock V κ × τ} {members : List (Parts ℕ V × List (Further V κ))} :
    Family nameOf c x members → Stock.Step x.1 x'.1 → Family nameOf c x' members

/-- Every service program of a family has its own arguments, whatever was made of it and whatever
happened meanwhile. -/
lemma Family.holds [DecidableEq κ] {nameOf : V → κ} {c : Declared V κ} {x : Stock V κ × τ}
    {members : List (Parts ℕ V × List (Further V κ))} (h : Family nameOf c x members)
    {p : Parts ℕ V} {calls : List (Further V κ)} (hp : (p, calls) ∈ members) :
    x.1.Holds p (c.given calls.prod) := by
  induction h generalizing p calls with
  | declared hc =>
    obtain ⟨rfl, rfl⟩ := Prod.mk.inj (List.mem_singleton.1 hp)
    rwa [List.prod_nil, Declared.given_one]
  | derived a hc =>
    obtain ⟨rfl, rfl⟩ := Prod.mk.inj (List.mem_singleton.1 hp)
    rw [List.prod_singleton]
    exact Stock.withArgs_holds hc a
  | called a _ hq ih =>
    obtain hp | hp := List.mem_cons.1 hp
    · obtain ⟨rfl, rfl⟩ := Prod.mk.inj hp
      rw [List.prod_append, List.prod_singleton, Declared.given_mul]
      exact Stock.withArgs_holds (ih hq).shows a
    · obtain ⟨more, hmore⟩ := Stock.withArgs_adds nameOf (ih hq).shows a
      rw [hmore]
      exact (ih hp).mono fun _ _ hkept => hkept.append more
  | later _ hstep ih => exact (ih hp).mono fun _ _ => hstep.keeps

/-! ### The call of the factory -/

/-- How values of a host stand for places. -/
structure Addresses (V : Type) where
  refer : ℕ → V
  place : V → ℕ
  place_refer (i : ℕ) : place (refer i) = i

/-- How objects with attributes are made, and how functions are called. -/
structure Calling (V E κ σ : Type) where
  newHolder (attributes : List (κ × V)) : StateM σ V
  call (f : V) (positional : List V) (named : List (κ × V)) : StateM σ (Except E V)

/-- Calls the factory of a service program: first comes an object that has the services as
attributes, and then there are all arguments. -/
def Calling.start {σ : Type} (k : Calling V E κ σ) (c : Declared V κ) : StateM σ (Except E V) := do
  let holder ← k.newHolder c.services.pairs
  k.call c.factory (holder :: c.positional) c.named.pairs

/-- A host that has programs built by calls of their factories, with what the store has then. -/
def Host.calling [DecidableEq κ] (A : Addresses V) (nameOf : V → κ)
    (k : Calling V E κ (Stock V κ × τ)) (host : Host V E (Stock V κ × τ)) :
    Host V E (Stock V κ × τ)
  | .build factory services arguments keywords =>
    (Stock.workshop nameOf).build k.newHolder k.call factory (A.place services)
      (A.place arguments) (A.place keywords)
  | q => host q

section

variable [DecidableEq κ] {nameOf : V → κ} {A : Addresses V} {k : Calling V E κ (Stock V κ × τ)}
  {host : Host V E (Stock V κ × τ)} {x x' : Stock V κ × τ} {h : History V E} {p : Parts ℕ V}
  {c : Declared V κ}

/-- What a factory is called with is read from the store. -/
lemma calling_build (hp : x.1.Shows p c) : host.calling A nameOf k
    (.build p.factory (A.refer p.services) (A.refer p.arguments) (A.refer p.keywords)) x =
      k.start c x := by
  obtain ⟨plain, hk⟩ := hp.keywords
  simp [Host.calling, Workshop.build, Workshop.handed, Stock.workshop, A.place_refer,
    hp.services.matter, hp.arguments.matter, hk.matter, Matter.dictionary, Matter.items,
    Calling.start, bind, StateT.bind, hp.factory]
  rfl

lemma calling_of_not_builds {q : Request V E} (hq : ¬ q.Builds) :
    host.calling A nameOf k q = host q := by
  cases q <;> first | rfl | exact absurd trivial hq

/-- As long as no factory is called, a host does no more to the store than happens anyway. -/
lemma answers_reaches (hhost : ∀ q x, Stock.Reaches x.1 (host q x).2.1)
    (hh : ∀ e ∈ h, ¬ e.request.Builds) (hs : (host.calling A nameOf k).Answers x h x') :
    Stock.Reaches x.1 x'.1 := by
  induction h generalizing x with
  | nil =>
    obtain rfl := hs
    exact .refl
  | cons e h ih =>
    obtain ⟨hq, hh⟩ := List.forall_mem_cons.1 hh
    have hrest := hs.2
    rw [calling_of_not_builds hq] at hrest
    exact (hhost _ x).trans (ih hh hrest)

end

/-- The check of services has no program built. -/
lemma require_not_builds {tokens : List V} {h : History V E} {a : Except E Unit}
    (hc : (require tokens).Comes h a) : ∀ e ∈ h, ¬ e.request.Builds := by
  induction tokens generalizing h with
  | nil =>
    obtain ⟨rfl, rfl⟩ := hc
    nofun
  | cons t tokens ih =>
    obtain ⟨b, h, rfl, hn⟩ := hc
    refine List.forall_mem_cons.2 ⟨id, ?_⟩
    cases b with
    | error e =>
      obtain ⟨rfl, rfl⟩ := hn
      nofun
    | ok name =>
      obtain ⟨h₁, b, h₂, rfl, hlookup, hrest⟩ := (Talk.comes_bind _).1 hn
      refine List.forall_mem_append.2 ⟨lookup_not_builds hlookup, ?_⟩
      cases b with
      | error e =>
        obtain ⟨rfl, rfl⟩ := hrest
        nofun
      | ok v => exact ih hrest

/-- Whatever a talk comes to, it has no program built. -/
def Talk.Calm (t : Talk V E α) : Prop := ∀ h a, t.Comes h a → ∀ e ∈ h, ¬ e.request.Builds

/-- No program is built in the talk that a run is in. -/
def Run.Calm : Run V E → Prop
  | .active _ t => t.Calm
  | .over _ => True

lemma Talk.Seeking.calm {t : Talk V E α} (ht : t.Seeking) : t.Calm :=
  fun h a hc => (ht h a hc).not_builds

lemma Talk.Calm.ask [ErrorLike E] {q : Request V E} {next : q.Answer → Talk V E α}
    (ht : (Talk.ask q next).Calm) : ¬ q.Builds ∧ ∀ a, (next a).Calm := by
  have hcons {a : q.Answer} {h : History V E} {b : α} (hc : (next a).Comes h b) :
      ¬ q.Builds ∧ ∀ e ∈ h, ¬ e.request.Builds :=
    List.forall_mem_cons.1 (ht (⟨q, a⟩ :: h) b ⟨a, h, rfl, hc⟩)
  refine ⟨?_, fun a h b hc => (hcons hc).2⟩
  -- Some answers bring the talk to its end.
  let anyhow : Host V E Unit := fun q s => (Classical.choice q.nonempty_answer, s)
  obtain ⟨h, b, -, -, hc⟩ := anyhow.comes (next (anyhow q ()).1) ()
  exact (hcons hc).1

section

variable [ValueLike V] [ErrorLike E] {m : Manner}

lemma Verdict.next_calm (v : Verdict V E) (waiting : List (Level V)) :
    (v.next m waiting).Calm := by
  cases v with
  | again l how => exact (cycle_seeking how).calm
  | enter l nested => exact (takeUp_seeking nested).calm
  | leave result =>
    cases waiting with
    | nil => trivial
    | cons l rest =>
      cases result with
      | ok v => exact (cycle_seeking (.send v)).calm
      | error e => exact (finish_seeking (.error e)).calm

/-- A run that is in a talk without building has nothing built later, finished or not. -/
lemma Run.Goes.not_builds {r r' : Run V E} {h : History V E} (hg : r.Goes m h r')
    (hr : r.Calm) : ∀ e ∈ h, ¬ e.request.Builds := by
  induction hg with
  | here => nofun
  | decided _ ih => exact ih (Verdict.next_calm _ _)
  | answered a _ ih => exact List.forall_mem_cons.2 ⟨hr.ask.1, ih (hr.ask.2 a)⟩

/-- The run after the call of a factory. -/
def Run.afterCall (m : Manner) : Except E V → Run V E
  | .ok program => .start m program
  | .error e => .over (.error (m.cross e))

/-- The check comes to an end without a call. If it fails, then that is all. If not, then this very
call follows, and no other one follows on it, finished or not. -/
def CallsOnce {σ : Type} (m : Manner) (host : Host V E σ) (call : StateM σ (Except E V))
    (b : Blueprint V) (s : σ) : Prop :=
  ∃ h a s₁, (require b.required).Ends host s h a s₁ ∧ (∀ e ∈ h, ¬ e.request.Builds) ∧
    match a with
    | .error e => (Run.launch m b).Completes m host s h (.error (m.cross e)) s₁
    | .ok _ =>
      let called := call s₁
      let h' := h ++ [⟨.build b.factory b.services b.arguments b.keywords, called.1⟩]
      (Run.launch m b).Goes m h' (.afterCall m called.1) ∧ host.Answers s h' called.2 ∧
        ∀ rest r, (Run.afterCall m called.1).Goes m rest r → ∀ e ∈ rest, ¬ e.request.Builds

/-- A run goes through the talk that it begins with, and then it goes on. -/
lemma Run.Goes.bind {t : Talk V E α} {f : α → Talk V E (Verdict V E)} {waiting : List (Level V)}
    {h h' : History V E} {a : α} {r : Run V E} (ht : t.Comes h a)
    (hf : (Run.active waiting (f a)).Goes m h' r) :
    (Run.active waiting (t.bind f)).Goes m (h ++ h') r := by
  induction t generalizing h with
  | done b =>
    obtain ⟨rfl, rfl⟩ := ht
    exact hf
  | ask q next ih =>
    obtain ⟨b, h, rfl, hn⟩ := ht
    exact .answered b (ih b hn)

/-- A blueprint is started by the check and by one call, if that is what the host answers to it. -/
lemma callsOnce_of_build {σ : Type} {host : Host V E σ} {call : StateM σ (Except E V)}
    {b : Blueprint V} {s : σ}
    (hbuild : ∀ h s₁, (∀ e ∈ h, ¬ e.request.Builds) → host.Answers s h s₁ →
      host (.build b.factory b.services b.arguments b.keywords) s₁ = call s₁) :
    CallsOnce m host call b s := by
  obtain ⟨h, a, s₁, hs, hc⟩ := host.comes (require b.required) s
  have hh := require_not_builds hc
  refine ⟨h, a, s₁, ⟨hc, hs⟩, hh, ?_⟩
  cases a with
  | error e =>
    exact launch_completes.2 ⟨h, _, s₁, [], (List.append_nil h).symm, ⟨hc, hs⟩, rfl, rfl, rfl⟩
  | ok _ =>
    have hcall := hbuild h s₁ hh hs
    refine ⟨?_, hs.append ⟨congrArg Prod.fst hcall.symm, congrArg Prod.snd hcall.symm⟩, ?_⟩
    · rw [Run.launch, Blueprint.build, Talk.bind_assoc]
      refine .bind hc (.answered _ ?_)
      cases (call s₁).1 with
      | ok program => exact .here _
      | error e =>
        rw [Run.afterCall, ← Manner.out_error]
        exact .decided (.here _)
    · intro rest r hg
      refine hg.not_builds ?_
      cases (call s₁).1 with
      | ok program => exact (takeUp_seeking program).calm
      | error e => trivial

/-- A service program whose parts callers do not have in their hands calls its factory with its own
arguments, whatever happens while its services are looked up. -/
lemma callsOnce_of_holds [DecidableEq κ] {nameOf : V → κ} {A : Addresses V}
    {k : Calling V E κ (Stock V κ × τ)} {host : Host V E (Stock V κ × τ)}
    (hhost : ∀ q x, Stock.Reaches x.1 (host q x).2.1) {x : Stock V κ × τ} {p : Parts ℕ V}
    {c : Declared V κ} (hp : x.1.Holds p c) :
    CallsOnce m (host.calling A nameOf k) (k.start c) (p.blueprint A.refer c.services.values) x :=
  callsOnce_of_build fun _ _ hh hs =>
    calling_build ((answers_reaches hhost hh hs).holds hp).shows

end

/-- **Further arguments add up.** They are a monoid, whose product is the concatenation of the
positional arguments and the union of the named ones, in which the last of a name counts.

* A chain of calls gives the product of what the calls give, and nothing else changes. Chains with
  the same concatenations have the same product, and nothing is given by an empty call.
* A declaration takes services as a mapping or as tokens, which have names of their own, and puts
  them and the arguments into new places.
* In a family of service programs that come from one by calls, whatever is declared, called and
  changed by callers meanwhile, every service program has its own arguments, and those that come by
  chains with the same product are equal.
* If such a service program is run later, then its declared tokens are looked up, and if all are
  provided, the factory is called once, with an object that has the services as attributes, the
  positional arguments and the named ones, whatever happens during the check. -/
theorem further_arguments_add_up [DecidableEq κ] [ValueLike V] [ErrorLike E] (nameOf : V → κ)
    (A : Addresses V) :
    (∀ (c : Declared V κ) (calls : List (Further V κ)),
      let d := c.given calls.prod
      let named := c.named.pairs ++ calls.flatMap (·.2.pairs)
      calls.foldl Declared.given c = d ∧ c.given 1 = c ∧
        (d.services = c.services ∧ d.program.tokens = c.program.tokens ∧ d.factory = c.factory) ∧
        d.positional = c.positional ++ calls.flatMap (·.1.toList) ∧
        d.named.names = (named.map (·.1)).eraseDups ∧
        (∀ n, d.named.get? n = Bindings.find? n named.reverse) ∧
        ∀ calls' : List (Further V κ),
          calls'.flatMap (·.1.toList) = calls.flatMap (·.1.toList) →
          calls'.flatMap (·.2.pairs) = calls.flatMap (·.2.pairs) → calls'.prod = calls.prod) ∧
    (∀ (x : Stock V κ × τ) (i : ℕ) (y : Matter V κ) (factory : V) (arguments keywords : Option ℕ),
      x.1.Has i y → (∀ a ∈ arguments, ∃ items, x.1.Has a (.sequence items)) →
      (∀ k ∈ keywords, ∃ plain d, x.1.Has k (.mapping plain d)) →
      let made := Stock.declare nameOf i factory arguments keywords x
      let c : Declared V κ :=
        ⟨y.services nameOf, factory, x.1.itemsOf arguments, x.1.dictionaryOf keywords⟩
      made.2.1.Shows made.1 c ∧ (keywords = none → made.2.1.Holds made.1 c)) ∧
    ∀ (c : Declared V κ) (x : Stock V κ × τ) (members : List (Parts ℕ V × List (Further V κ))),
      Family nameOf c x members → ∀ p calls, (p, calls) ∈ members →
        let d := c.given calls.prod
        x.1.Holds p d ∧
        (∀ q calls', (q, calls') ∈ members → calls'.prod = calls.prod →
          ∀ e, x.1.Holds q e ↔ x.1.Holds p e) ∧
        ∀ (x' : Stock V κ × τ) (host : Host V E (Stock V κ × τ))
          (k : Calling V E κ (Stock V κ × τ)) (otherwise : StateM (Stock V κ × τ) (List V)),
          Stock.Reaches x.1 x'.1 → (∀ q y, Stock.Reaches y.1 (host q y).2.1) →
          (Stock.workshop nameOf).tokensOf p.services otherwise x' = (d.program.tokens, x') ∧
            ∀ m, CallsOnce m (host.calling A nameOf k) (k.start d)
              (p.blueprint A.refer d.program.tokens) x' := by
  refine ⟨fun c calls => ?_, fun x i y factory arguments keywords hi ha hk => ?_, ?_⟩
  · intro d named
    have hd : d.named = .ofPairs named := by
      show c.named * calls.prod.2 = _
      rw [prod_named, Dictionary.ofPairs_append, Dictionary.ofPairs_self]
    refine ⟨c.foldl_given calls, c.given_one, ⟨rfl, rfl, rfl⟩, ?_, ?_, fun n => ?_, ?_⟩
    · show c.positional ++ calls.prod.1.toList = _
      rw [prod_positional]
    · have hnames : (Dictionary.ofPairs named).names = unseen [] (named.map (·.1)) :=
        Dictionary.names_ofPairs named
      rw [hd, hnames, unseen_eq]
      simp
    · rw [hd]
      exact Dictionary.get?_ofPairs named n
    · intro calls' hpositional hnamed
      refine Prod.ext (FreeMonoid.toList.injective ?_) ?_
      · rw [prod_positional, prod_positional, hpositional]
      · rw [prod_named, prod_named, hnamed]
  · intro made c
    refine ⟨Stock.declare_makeUp Stock.Has (fun _ _ _ => Stock.Keeps.has)
      (fun _ _ _ more h => h.append more) hi ha fun k hkeywords => ?_, fun hnone => ?_⟩
    · obtain ⟨plain, d, hd⟩ := hk k hkeywords
      have hdictionary : x.1.dictionaryOf (some k) = d := by
        simp [Stock.dictionaryOf, hd.matter, Matter.dictionary]
      rw [Option.mem_def.1 hkeywords, hdictionary]
      exact ⟨plain, hd⟩
    · exact Stock.declare_makeUp Stock.Keeps (fun _ _ _ => id)
        (fun _ _ _ more h => h.append more) hi ha (by simp [hnone])
  · intro c x members h p calls hp d
    have hholds := h.holds hp
    refine ⟨hholds, fun q calls' hq hprod e => ?_, fun x' host k otherwise hreach hhost => ?_⟩
    · have hsame := h.holds hq
      rw [hprod] at hsame
      constructor
      · intro he
        rwa [he.shows.unique hsame.shows]
      · intro he
        rwa [he.shows.unique hholds.shows]
    · have hlater := hreach.holds hholds
      exact ⟨Stock.tokensOf_apply hlater.shows otherwise, fun m => callsOnce_of_holds hhost hlater⟩

/-! ### A program that is called twice -/

section

open Script

/-- Values as places. -/
def asObjects : Addresses Value where
  refer := .object
  place
    | .object i => i
    | _ => 0
  place_refer _ := rfl

/-- Objects with attributes are told by how many they have, and whatever is called returns the
program `0`. -/
def returning : Calling Value Fault Value (Stock Value Value × ℕ) where
  newHolder attributes x := (.object attributes.length, x)
  call _ _ _ x := (.ok (.object 0), x)

/-- A host that serves everything from beside the store. -/
def besideStock : Host Value Fault (Stock Value Value × ℕ) := fun q x =>
  let answered := declaring (fun _ => .ok (.object 7)) q x.2
  (answered.1, x.1, answered.2)

/-- Whatever is in the store, the call returns what the program `0` returns. -/
lemma besideStock_conduct (f services arguments keywords : Value) (s : Stock Value Value) :
    (Run.launch .cooperative ⟨[.object 2], f, services, arguments, keywords⟩).conduct .cooperative
      (besideStock.calling asObjects id returning) 40 (s, 0) =
        (some (.ok (.object 1)), s, 2) := rfl

/-- The token `2` in a list that callers have in their hands. -/
def tokenList : Stock Value Value × ℕ := ([⟨.sequence [.object 2], true⟩], 0)

/-- What is declared by this list, and by no arguments. -/
def tokenListed : Declared Value Value := ⟨.ofPairs [(.object 2, .object 2)], .object 9, [], 1⟩

/-- One positional argument and the named argument `3`. -/
def furtherPair (a b : ℕ) : Further Value Value :=
  (.of (.object a), .ofPairs [(.object 3, .object b)])

/-- A program is declared with a list of tokens. A second one is made of it, and a third one of the
second one; then the list is emptied. The second one still has its one token, and the factory is
called with the one positional and the one named argument that it was given. -/
theorem second_program_has_its_arguments :
    let declared := Stock.declare id 0 (.object 9) none none tokenList
    let second := Stock.withArgs id declared.1 (furtherPair 5 7) declared.2
    let third := Stock.withArgs id second.1 (furtherPair 6 8) second.2
    let emptied : Stock Value Value × ℕ := (third.2.1.set 0 ⟨.sequence [], true⟩, 0)
    let d := tokenListed.given [furtherPair 5 7].prod
    let b := second.1.blueprint asObjects.refer d.program.tokens
    Family id tokenListed third.2 [(third.1, [furtherPair 5 7, furtherPair 6 8]),
        (second.1, [furtherPair 5 7]), (declared.1, [])] ∧
      Stock.Reaches third.2.1 emptied.1 ∧
      (∀ q y, Stock.Reaches y.1 (besideStock q y).2.1) ∧
      (d.program.tokens = [.object 2] ∧ d.positional = [.object 5] ∧
        d.named.pairs = [(.object 3, .object 7)]) ∧
      CallsOnce .cooperative (besideStock.calling asObjects id returning) (returning.start d) b
        emptied ∧
      ∃ h y, (Run.launch .cooperative b).Completes .cooperative
        (besideStock.calling asObjects id returning) emptied h (.ok (.object 1)) y := by
  intro declared second third emptied d b
  obtain ⟨-, hdeclared, hfamily⟩ := further_arguments_add_up (E := Fault) (τ := ℕ)
    (id : Value → Value) asObjects
  have htokens : tokenList.1.Has 0 (.sequence [.object 2]) := ⟨true, rfl⟩
  have hlisted : declared.2.1.Holds declared.1 tokenListed :=
    (hdeclared tokenList 0 _ (.object 9) none none htokens nofun nofun).2 rfl
  have hsecond : Family id tokenListed second.2 [(second.1, [furtherPair 5 7]), (declared.1, [])] :=
    .called _ (.declared hlisted) List.mem_cons_self
  have hthird := hsecond.called (furtherPair 6 8) List.mem_cons_self
  have hfirst : third.2.1[0]? = some ⟨.sequence [.object 2], true⟩ := rfl
  have hreach : Stock.Reaches third.2.1 emptied.1 := .single (.changed (.sequence []) hfirst)
  have hhost : ∀ q y, Stock.Reaches y.1 (besideStock q y).2.1 := fun _ _ => .refl
  obtain ⟨-, -, hruns⟩ := hfamily tokenListed third.2 _ hthird second.1 [furtherPair 5 7]
    (List.mem_cons_of_mem _ List.mem_cons_self)
  have hcall := (hruns emptied besideStock returning (pure []) hreach hhost).2 .cooperative
  obtain ⟨h, hcompletes⟩ := Run.completes_of_conduct
    (besideStock_conduct second.1.factory (.object second.1.services) (.object second.1.arguments)
      (.object second.1.keywords) emptied.1)
  exact ⟨hthird, hreach, hhost, ⟨rfl, rfl, rfl⟩, hcall, h, _, hcompletes⟩

end

end Provision
