import Provision.Bindings

/-!
Tokens: named requests for a service, and the environments built from what they name.

A token is compared by its name alone; the contract only describes what is expected. Mappings may
be keyed by names and tokens mixed: `environment` replaces each key by its name (`Label.name`),
binds the mappings in order and then the named implementations, the last binding of a name winning
in the place of its first.
-/

namespace Provision

/-- A named request for an implementation. -/
structure Token (ν κ : Type) where
  /-- The name the implementation is looked up by. -/
  name : ν
  /-- What the implementation is expected to look like; nothing ever consults it. -/
  contract : κ

namespace Token

variable {ν κ α : Type}

/-- Tokens are told apart by their names only. -/
instance [BEq ν] : BEq (Token ν κ) := ⟨fun s t => s.name == t.name⟩

@[simp]
theorem beq_iff [BEq ν] (s t : Token ν κ) : (s == t) = (s.name == t.name) := rfl

/-- The environment that provides this service and no other. -/
def provide [BEq ν] (t : Token ν κ) (implementation : α) : Bindings ν α :=
  Bindings.empty.put t.name implementation

/-- Gives back an implementation unchanged, so that it can be declared next to its token. -/
def make (_ : Token ν κ) (implementation : α) : α := implementation

end Token

/-- A key of a mapping: a bare name, or a token that carries one. -/
inductive Label (ν κ : Type) where
  | name (n : ν)
  | token (t : Token ν κ)

/-- The name under which a key's value is found. -/
def Label.key {ν κ : Type} : Label ν κ → ν
  | .name n => n
  | .token t => t.name

section

variable {ν κ α : Type}

/-- The pairs of a mapping with their keys replaced by names. -/
def byName (mapping : List (Label ν κ × α)) : List (ν × α) :=
  mapping.map fun p => (p.1.key, p.2)

variable [BEq ν]

/-- The environment made of some mappings, in order, and then of named implementations. -/
def environment (mappings : List (List (Label ν κ × α))) (named : List (ν × α)) :
    Bindings ν α :=
  Bindings.ofPairs ((mappings.map byName).flatten ++ named)

/-- The environment made of some mappings, in order. -/
def merge (mappings : List (List (Label ν κ × α))) : Bindings ν α := environment mappings []

end

end Provision
