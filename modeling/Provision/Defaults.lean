import Provision.Token

/-!
Defaults: implementations that are used unless a run overrides them.

Overrides are merged over the defaults for one run (`environmentFor`), and extending the defaults
gives new ones (`extend`). Neither remembers how the bindings were grouped: `environmentFor_eq` and
`bindings_extend` read both off one list of pairs.
-/

namespace Provision

/-- Default implementations, as a mapping. -/
structure Defaults (ν κ α : Type) where
  mapping : List (Label ν κ × α)

namespace Defaults

variable {ν κ α : Type} [BEq ν]

/-- The defaults by name. -/
def bindings (d : Defaults ν κ α) : Bindings ν α := merge [d.mapping]

/-- The environment of one run. -/
def environmentFor (d : Defaults ν κ α) (overrides : List (Label ν κ × α)) : Bindings ν α :=
  merge [d.mapping, overrides]

/-- New defaults with further mappings and named implementations over these. -/
def extend (d : Defaults ν κ α) (mappings : List (List (Label ν κ × α))) (named : List (ν × α)) :
    Defaults ν κ α :=
  ⟨(environment (d.mapping :: mappings) named).pairs.map fun p => (.name p.1, p.2)⟩

/-- Overriding is having the overrides last. -/
theorem environmentFor_eq (d : Defaults ν κ α) (overrides : List (Label ν κ × α)) :
    d.environmentFor overrides = (⟨d.mapping ++ overrides⟩ : Defaults ν κ α).bindings := by
  simp [environmentFor, bindings, merge, environment, byName]

/-- The extended defaults by name are the environment that they were made from, bound anew. -/
theorem bindings_extend (d : Defaults ν κ α) (mappings : List (List (Label ν κ × α)))
    (named : List (ν × α)) :
    (d.extend mappings named).bindings =
      Bindings.ofPairs (environment (d.mapping :: mappings) named).pairs := by
  simp [extend, bindings, merge, environment, byName, Label.key, Function.comp_def]

end Defaults

end Provision
