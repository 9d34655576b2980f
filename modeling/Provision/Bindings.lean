/-!
Bindings: finite maps that remember the order in which their names came.

A name keeps the place of its first arrival and the value of its last, so `put` on a name that is
already bound replaces the value where it stands. `get?_put_self` and `get?_put_of_ne` say what a
lookup finds after a `put`, `names_put` where the name goes, and `update_append` that putting two
lists of pairs one after the other is putting their concatenation.
-/

namespace Provision

/-- A list of pairs, read as a map from names to values in order of arrival. -/
structure Bindings (ν α : Type) where
  /-- The pairs, oldest name first. -/
  pairs : List (ν × α)

namespace Bindings

variable {ν α : Type}

/-- No name is bound. -/
def empty : Bindings ν α := ⟨[]⟩

instance : Inhabited (Bindings ν α) := ⟨empty⟩

/-- The bound names in order of arrival. -/
def names (b : Bindings ν α) : List ν := b.pairs.map (·.1)

/-- The bound values in the order of their names. -/
def values (b : Bindings ν α) : List α := b.pairs.map (·.2)

/-- How many names are bound. -/
def size (b : Bindings ν α) : Nat := b.pairs.length

variable [BEq ν]

/-- The value of a name in a list of pairs, that of the first pair with this name. -/
def find? (n : ν) : List (ν × α) → Option α
  | [] => none
  | (m, a) :: rest => if m == n then some a else find? n rest

/-- Replaces the value of a name where it stands, or binds the name at the end. -/
def insert (n : ν) (a : α) : List (ν × α) → List (ν × α)
  | [] => [(n, a)]
  | (m, b) :: rest => if m == n then (m, a) :: rest else (m, b) :: insert n a rest

/-- The value of a name. -/
def get? (b : Bindings ν α) (n : ν) : Option α := find? n b.pairs

/-- Whether a name is bound. -/
def contains (b : Bindings ν α) (n : ν) : Bool := (b.get? n).isSome

/-- Binds a name, keeping its place if it has one. -/
def put (b : Bindings ν α) (n : ν) (a : α) : Bindings ν α := ⟨insert n a b.pairs⟩

/-- Unbinds a name. -/
def erase (b : Bindings ν α) (n : ν) : Bindings ν α := ⟨b.pairs.filter fun p => !(p.1 == n)⟩

/-- Binds every pair of a list in turn. -/
def update (b : Bindings ν α) (pairs : List (ν × α)) : Bindings ν α :=
  pairs.foldl (fun b p => b.put p.1 p.2) b

/-- The bindings made by a list of pairs, later pairs winning. -/
def ofPairs (pairs : List (ν × α)) : Bindings ν α := empty.update pairs

/-! ### What a lookup finds -/

@[simp]
theorem get?_empty (n : ν) : (empty : Bindings ν α).get? n = none := rfl

@[simp]
theorem update_nil (b : Bindings ν α) : b.update [] = b := rfl

@[simp]
theorem update_cons (b : Bindings ν α) (p : ν × α) (ps : List (ν × α)) :
    b.update (p :: ps) = (b.put p.1 p.2).update ps := rfl

/-- Putting two lists in turn is putting their concatenation. -/
theorem update_append (b : Bindings ν α) (ps qs : List (ν × α)) :
    b.update (ps ++ qs) = (b.update ps).update qs := by
  simp [update]

variable [LawfulBEq ν]

theorem find?_insert_self (n : ν) (a : α) (ps : List (ν × α)) :
    find? n (insert n a ps) = some a := by
  induction ps with
  | nil => simp [insert, find?]
  | cons p ps ih =>
    by_cases h : p.1 == n <;> simp_all [insert, find?]

theorem find?_insert_of_ne {m n : ν} (h : m ≠ n) (a : α) (ps : List (ν × α)) :
    find? n (insert m a ps) = find? n ps := by
  induction ps with
  | nil => simp [insert, find?, h]
  | cons p ps ih =>
    by_cases hm : p.1 = m <;> by_cases hn : p.1 = n <;> simp_all [insert, find?]

/-- A name has the value it was given last. -/
@[simp]
theorem get?_put_self (b : Bindings ν α) (n : ν) (a : α) : (b.put n a).get? n = some a :=
  find?_insert_self n a b.pairs

/-- Binding one name leaves the others. -/
theorem get?_put_of_ne (b : Bindings ν α) {m n : ν} (h : m ≠ n) (a : α) :
    (b.put m a).get? n = b.get? n :=
  find?_insert_of_ne h a b.pairs

/-- A name that is new goes to the end, and one that is bound keeps its place. -/
theorem names_put [DecidableEq ν] (b : Bindings ν α) (n : ν) (a : α) :
    (b.put n a).names = if n ∈ b.names then b.names else b.names ++ [n] := by
  obtain ⟨ps⟩ := b
  simp only [put, names]
  induction ps with
  | nil => simp [insert]
  | cons p ps ih =>
    by_cases h : p.1 = n
    · simp [insert, h]
    · have h' : ¬ n = p.1 := fun e => h e.symm
      by_cases hm : n ∈ ps.map (·.1) <;> simp_all [insert]

end Bindings

end Provision
