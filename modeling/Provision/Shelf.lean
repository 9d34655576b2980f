import Provision.Defaults

/-!
Shelves: where mappings are kept, and what is made of them there.

A mapping may change from one use to the next. Whoever makes an environment or the defaults of a
runtime therefore goes through the mappings at once and puts what they hold into a new dictionary
(`Shelf.assemble`), which is all that is kept of them.
-/

namespace Provision

/-- A place where mappings are kept and referred to by `R`. -/
structure Shelf (m : Type → Type) (R ν κ α : Type) where
  /-- The pairs that a mapping has now, given the names that there were before them. -/
  pairs (known : List ν) (mapping : R) : m (List (Label ν κ × α))
  /-- Whether a mapping counts as true. -/
  truth (mapping : R) : m Bool
  /-- Puts a new dictionary there. -/
  add (b : Bindings ν α) : m R

/-- The ways to make a new dictionary of mappings. -/
inductive Assembly (R ν α : Type) where
  | environment (mappings : List R) (named : List (ν × α))
  /-- The defaults of a new runtime. -/
  | runtime (mapping : R)
  /-- The defaults of a runtime that extends another one. -/
  | extend (defaults : R) (mappings : List R) (named : List (ν × α))
  /-- The environment that a runtime runs a program with. -/
  | environmentFor (defaults : R) (overrides : Option R)

namespace Shelf

variable {m : Type → Type} [Monad m] {R ν κ α : Type} [BEq ν] (s : Shelf m R ν κ α)

/-- The pairs of some mappings, one mapping after the other. -/
def pairsOfAll (known : List ν) : List R → m (List (List (Label ν κ × α)))
  | [] => return []
  | mapping :: rest => do
    let pairs ← s.pairs known mapping
    return pairs :: (← pairsOfAll (known ++ pairs.map (·.1.key)) rest)

/-- The defaults that a mapping holds. -/
def defaultsIn (mapping : R) : m (Defaults ν κ α) := return ⟨← s.pairs [] mapping⟩

/-- The mapping, or an empty dictionary if there is none or it counts as false. -/
def orEmpty : Option R → m R
  | none => s.add .empty
  | some mapping => do if ← s.truth mapping then return mapping else s.add .empty

/-- Makes a new dictionary of mappings as they are now. -/
def assemble : Assembly R ν α → m R
  | .environment mappings named => do
    s.add (environment (← s.pairsOfAll [] mappings) named)
  | .runtime mapping => do
    s.add (← s.defaultsIn mapping).bindings
  | .extend defaults mappings named => do
    let d ← s.defaultsIn defaults
    let known := d.mapping.map (·.1.key)
    s.add (d.extend (← s.pairsOfAll known mappings) named).bindings
  | .environmentFor defaults overrides => do
    let overrides ← s.orEmpty overrides
    let d ← s.defaultsIn defaults
    let known := d.mapping.map (·.1.key)
    s.add (d.environmentFor (← s.pairs known overrides))

end Shelf

end Provision
