/-!
Tables: sets whose items stand at the places that their hashes ask for.

A table has a power of two of places. The walk for an item begins at the place of its hash, looks at
a run of neighbouring places, and then jumps on by what is left of the hash, until it meets the item or
a free place. An item that is new goes there, or to the last place that was given up on the way
(`insert`). When three fifths of the places are no longer free, the table is built anew with more
places. So the order in which the items are listed (`items`) tells of their hashes, and a little of
their history.
-/

namespace Provision

/-- A place of a table. -/
inductive Place (α : Type) where
  | free
  | taken (a : α)
  /-- An item stood here. -/
  | closed
  deriving Inhabited

namespace Place

variable {α : Type}

/-- Whether nothing ever stood here. -/
def isFree : Place α → Bool
  | .free => true
  | _ => false

/-- The item that stands here. -/
def item? : Place α → Option α
  | .taken a => some a
  | _ => none

end Place

/-- A set of items at places. -/
structure Table (α : Type) where
  places : Array (Place α)
  /-- Where the search begins for an item to be taken out. -/
  finger : Nat

namespace Table

variable {α : Type}

/-- A table with nothing in it, of so many places. -/
def blank (size : Nat) : Table α := ⟨Array.replicate size .free, 0⟩

/-- The smallest table. -/
def empty : Table α := blank 8

instance : Inhabited (Table α) := ⟨empty⟩

/-- The items in the order of their places. -/
def items (t : Table α) : List α := t.places.toList.filterMap Place.item?

/-- How many items there are. -/
def size (t : Table α) : Nat := t.items.length

/-- How many places are no longer free. -/
def filled (t : Table α) : Nat := (t.places.toList.filter fun p => !p.isFree).length

/-! ### Walks -/

/-- The places that a walk looks at before it jumps. -/
def run (size i : Nat) : List Nat :=
  if i + 9 < size then (List.range 10).map (i + ·) else [i]

/-- Where a walk for an item ends: at the item, or at the place where it would go. -/
inductive Stop where
  | item (i : Nat)
  | gap (i : Nat)

/-- Looks at some places for an item; an item that is missing goes to the last closed place before
the first free one. There is no end yet if no place is free. -/
def look (places : Array (Place α)) (wanted : α → Bool) :
    Option Nat → List Nat → Option Nat × Option Stop
  | last, [] => (last, none)
  | last, i :: rest =>
    match places[i]? with
    | some (.taken a) =>
      if wanted a then (last, some (.item i)) else look places wanted last rest
    | some .closed => look places wanted (some i) rest
    | _ => (last, some (.gap (last.getD i)))

/-- Walks on in at most so many jumps. -/
def walk (places : Array (Place α)) (wanted : α → Bool) :
    Nat → Nat → Nat → Option Nat → Option Stop
  | 0, _, _, _ => none
  | fuel + 1, rest, i, last =>
    match look places wanted last (run places.size i) with
    | (_, some stop) => some stop
    | (last, none) =>
      let rest := rest / 32
      walk places wanted fuel rest ((i * 5 + 1 + rest) % places.size) last

variable [Hashable α]

/-- Where the walk for an item ends; items are told apart by a test. -/
def stopFor (t : Table α) (a : α) (wanted : α → Bool) : Option Stop :=
  let h := (hash a).toNat
  walk t.places wanted (t.places.size + 64) h (h % t.places.size) none

/-- Puts an item that is new where its walk ends. -/
def settle (t : Table α) (a : α) : Table α :=
  match t.stopFor a fun _ => false with
  | some (.gap i) => { t with places := t.places.setIfInBounds i (.taken a) }
  | _ => t

/-- The same items in a table with more than so many places. -/
def rebuild (t : Table α) (n : Nat) : Table α :=
  { t.items.foldl settle (blank (max 8 (n + 1).nextPowerOfTwo)) with finger := t.finger }

/-- Whether so many more items would leave too few places free. -/
def isCrowdedBy (t : Table α) (n : Nat) : Bool :=
  (t.filled + n) * 5 ≥ (t.places.size - 1) * 3

/-- The number of places that a table is built anew for. -/
def spacious (t : Table α) : Nat := t.size * (if t.size > 50000 then 2 else 4)

/-- Makes room for many items at once. -/
def reserve (t : Table α) (n : Nat) : Table α :=
  if t.isCrowdedBy n then t.rebuild ((t.size + n) * 2) else t

variable [BEq α]

/-- The place of the item that is equal to another one. -/
def placeOf? (t : Table α) (a : α) : Option Nat :=
  match t.stopFor a (· == a) with
  | some (.item i) => some i
  | _ => none

/-- The item that is equal to another one. -/
def find? (t : Table α) (a : α) : Option α :=
  (t.placeOf? a).bind fun i => t.places[i]?.bind Place.item?

/-- Whether there is such an item. -/
def contains (t : Table α) (a : α) : Bool := (t.find? a).isSome

/-- Puts an item into a table, unless there is an equal one. -/
def insert (t : Table α) (a : α) : Table α :=
  if t.contains a then t
  else
    let t := t.settle a
    if t.isCrowdedBy 0 then t.rebuild t.spacious else t

/-- Takes an item out of a table. -/
def erase (t : Table α) (a : α) : Table α :=
  match t.placeOf? a with
  | some i => { t with places := t.places.setIfInBounds i .closed }
  | none => t

/-- The items of a list, put in one after the other. -/
def insertAll (t : Table α) (items : List α) : Table α := items.foldl insert t

/-- Whether a table is as it was when it was made. -/
def isUntouched (t : Table α) : Bool := t.filled = 0

/-- Adds the items of another table. A table that holds nothing becomes an equal one if it has as
many places, or takes the items in the order of their places. -/
def merge (t other : Table α) : Table α :=
  let t := t.reserve other.size
  if !t.isUntouched then t.insertAll other.items
  else if t.places.size = other.places.size && other.filled = other.size then
    { t with places := other.places }
  else other.items.foldl settle t

/-- A table with the items of another one. -/
def copy (t : Table α) : Table α := empty.merge t

/-- The items of both tables, as they are met in the larger one. -/
def inter (t other : Table α) : Table α :=
  let (few, many) := if other.size > t.size then (t, other) else (other, t)
  empty.insertAll (few.items.filter many.contains)

/-- Takes some items out; many places that were given up make it worth to build the table anew. -/
def eraseAll (t : Table α) (items : List α) : Table α :=
  let t := items.foldl erase t
  if t.filled - t.size > (t.places.size - 1) / 4 then t.rebuild t.spacious else t

/-- Takes the items of another table out. -/
def subtract (t other : Table α) : Table α :=
  t.eraseAll (if other.size / 8 > t.size then t.inter other else other).items

/-- Takes out what both have, and puts in what only the other one has. -/
def toggle (t : Table α) (items : List α) : Table α :=
  items.foldl (fun t a => if t.contains a then t.erase a else t.insert a) t

/-- Takes some item out: the first one behind the place where that was done before. -/
def pop? (t : Table α) : Option (α × Table α) :=
  let start := t.finger % t.places.size
  let order := (List.range t.places.size).map fun i => (start + i) % t.places.size
  order.findSome? fun i =>
    (t.places[i]?.bind Place.item?).map fun a => (a, ⟨t.places.setIfInBounds i .closed, i + 1⟩)

end Table

end Provision
