import Provision.Script.Method.Basic

/-!
Methods of sets, and the operators by which views of mappings are combined like sets.

A set is a table of keys. What is combined with it by a method may be anything that can be gone
through, one item after the other; an operator only takes another set. A view is first made into a
set, unless only what is in both is wanted.
-/

namespace Provision.Script

/-- The items of a set. -/
abbrev Items := Table DictKey

/-! ### Making -/

/-- A new set. -/
def newSetOf (frozen : Bool) (items : Items) : Act Value := alloc (.set frozen items)

/-- The items of a set. -/
def World.itemTable? (w : World) (v : Value) : Option Items :=
  match w.object? v with
  | some (.set _ items) => some items
  | _ => none

/-- The key that a value has among the items of a set. -/
def memberKey (p : Performer) (items : Items) (v : Value) : Act DictKey := do
  settledKey p items.items (← dictKey p v)

/-- The key by which a value is looked for among the items of a set; a set stands for a frozen
one. -/
def itemKey (p : Performer) (items : Items) (v : Value) : Act DictKey := do
  match ← look v with
  | some (.set false other) => return ⟨Key.ofItems (other.items.map (·.key)), v, ← nextStamp⟩
  | _ => memberKey p items v

/-- Does something to a table for each item of a value, and keeps the table after each. -/
def withEach (p : Performer) (keep : Items → Act Unit) (f : Items → DictKey → Items) (items : Items)
    (v : Value) : Act Items := do
  goThrough p (← iteratorOf p v) (fun items item => do
    let items := f items (← memberKey p items item)
    keep items
    return (items, true)) stepLimit items

/-- Adds what a value gives to a table. -/
def addItems (p : Performer) (keep : Items → Act Unit) (items : Items) (v : Value) : Act Items := do
  match ← look v with
  | some (.set _ other) => return items.merge other
  | some (.dict entries) => return (items.reserve entries.size).insertAll entries.names
  | _ => withEach p keep .insert items v

/-- Nothing is kept of a table that is still being made. -/
def unkept (_ : Items) : Act Unit := pure ()

/-- What a value gives, as the items of a set. -/
def setOf (p : Performer) (v : Value) : Act Items := addItems p unkept .empty v

/-! ### Combining -/

/-- What is in a set and given by a value. -/
def commonItems (p : Performer) (self : Value) (items : Items) (v : Value) : Act Items := do
  if v = self then return items.copy
  match (← get).itemTable? v with
  | some other => return items.inter other
  | none => goThrough p (← iteratorOf p v) (fun (found : Items) item => do
      let key ← memberKey p items item
      return (if items.contains key then found.insert key else found, true)) stepLimit .empty

/-- Takes what a value gives out of a table. -/
def removeItems (p : Performer) (keep : Items → Act Unit) (self : Value) (items : Items)
    (v : Value) : Act Items := do
  if v = self then return .empty
  match (← get).itemTable? v with
  | some other => return items.subtract other
  | none => return (← withEach p keep .erase items v).eraseAll []

/-- What is in a set and not given by a value. -/
def otherItems (p : Performer) (items : Items) (v : Value) : Act Items := do
  let known : Option (List DictKey) := match ← look v with
    | some (.set _ other) => some other.items
    | some (.dict entries) => some entries.names
    | _ => none
  match known with
  | some keys =>
    if items.size / 4 > keys.length then removeItems p unkept .none items.copy v
    else return Table.empty.insertAll (items.items.filter fun k => !keys.contains k)
  | none => removeItems p unkept .none items.copy v

/-- Takes out of a table what a value gives too, and puts in what only that gives. -/
def toggleItems (p : Performer) (self : Value) (items : Items) (v : Value) : Act Items := do
  if v = self then return .empty
  match ← look v with
  | some (.set _ other) => return items.toggle other.items
  | some (.dict entries) => return items.toggle entries.names
  | _ => return items.toggle (← setOf p v).items

/-- What an operator makes of two sets. -/
def setOperator? (p : Performer) (name : String) (a b : Value) (left right : Items) :
    Option (Act Items) :=
  match name with
  | "__and__" => some (commonItems p a left b)
  | "__or__" => some (return if a = b then left.copy else left.copy.merge right)
  | "__sub__" => some (otherItems p left b)
  | "__xor__" => some (return right.copy.toggle left.items)
  | _ => none

/-- What an operator that changes a set makes of its items. -/
def setUpdate? (p : Performer) (name : String) (keep : Items → Act Unit) (self : Value)
    (items : Items) (v : Value) : Option (Act Items) :=
  match name with
  | "__iand__" => some (commonItems p self items v)
  | "__ior__" | "update" => some (if v = self then return items else addItems p keep items v)
  | "__isub__" | "difference_update" => some (removeItems p keep self items v)
  | "__ixor__" | "symmetric_difference_update" => some (toggleItems p self items v)
  | _ => none

/-- What a method makes of a set and of any number of values. -/
def setMethod? (p : Performer) (name : String) (self : Value) (items : Items)
    (args : List Value) : Option (Act Items) :=
  match name, args with
  | "union", args => some (args.foldlM (addItems p unkept) items.copy)
  | "intersection", args | "intersection_update", args =>
    some do
      match args with
      | [] => return items.copy
      | v :: rest => rest.foldlM (commonItems p .none) (← commonItems p self items v)
  | "difference", args =>
    some do
      match args with
      | [] => return items.copy
      | v :: rest => rest.foldlM (removeItems p unkept .none) (← otherItems p items v)
  | "symmetric_difference", [v] => some do return (← setOf p v).toggle items.items
  | _, _ => none

/-- The methods of sets. -/
def setMember (p : Performer) (r : Nat) (frozen : Bool) (items : Items) (name : String)
    (args : List Value) : Act Value := do
  let cls := if frozen then "frozenset" else "set"
  let self := Value.object r
  let store (items : Items) : Act Unit := put r (.set frozen items)
  match name, args with
  | "add", [v] => store (items.insert (← memberKey p items v)); return .none
  | "discard", [v] => store (items.erase (← itemKey p items v)); return .none
  | "remove", [v] =>
    let key ← itemKey p items v
    if !items.contains key then raise .key [v]
    store (items.erase key)
    return .none
  | "pop", [] =>
    match items.pop? with
    | some (key, items) => store items; return key.shown
    | none => raise .key [.text "pop from an empty set"]
  | "clear", [] => store .empty; return .none
  | "copy", [] => if frozen then return self else newSetOf false items.copy
  | "isdisjoint", [v] =>
    return .bool (!(← anyOf p v fun item => do
      return items.contains (← memberKey p items item)))
  | "issubset", [v] =>
    let other ← setOf p v
    if items.size > other.size then return .bool false
    return .bool (← items.items.allM fun k => do
      return other.contains (← settledKey p other.items k))
  | "issuperset", [v] =>
    return .bool (!(← anyOf p v fun item => do
      return !items.contains (← memberKey p items item)))
  | "__contains__", [v] => return .bool (items.contains (← itemKey p items v))
  | "__sizeof__", [] => return .int 200
  | "__reduce__", [] =>
    newTuple [← classValue (.known cls),
      ← newTuple [← newList (items.items.map (·.shown))], .none]
  | name, args =>
    match setMethod? p name self items args with
    | some combined =>
      let items ← combined
      if name = "intersection_update" then
        store items
        return .none
      else newSetOf frozen items
    | none => combined cls store self name args
where
  /-- Combines the set with another one by an operator, or changes it by values. -/
  combined (cls : String) (store : Items → Act Unit) (self : Value) (name : String)
      (args : List Value) : Act Value := do
    let w ← get
    let changes := name.startsWith "__i"
    let sets := args.map fun v => (v, w.itemTable? v)
    match sets, changes || name.endsWith "update" with
    | [(_, none)], true =>
      if changes then notImplemented else changed store self name args
    | _, true =>
      let result ← changed store self name args
      return if changes then self else result
    | [(v, some other)], false =>
      let (base, a, b) := match exchanged? name with
        | some base => (base, v, self)
        | none => (name, self, v)
      let (left, right) := if a = self then (items, other) else (other, items)
      let frozen := w.isExactly a "frozenset"
      match setOperator? p base a b left right with
      | some action => do newSetOf frozen (← action)
      | none => wrongCount cls name args
    | [(_, none)], false => notImplemented
    | _, false => wrongCount cls name args
  /-- Changes the set by one value after the other. -/
  changed (store : Items → Act Unit) (self : Value) (name : String) (args : List Value) :
      Act Value := do
    args.forM fun v => do
      match (← get).itemTable? self with
      | some now =>
        match setUpdate? p name store self now v with
        | some action => store (← action)
        | none => pure ()
      | none => pure ()
    return .none

/-! ### Views -/

/-- The operators by which views are combined. -/
def isViewOperator (name : String) : Bool :=
  ["__and__", "__rand__", "__or__", "__ror__", "__sub__", "__rsub__", "__xor__",
    "__rxor__"].contains name

/-- A view, or what it is combined with, as a set. -/
def viewItems (p : Performer) (v : Value) : Act Items := do
  match ← look v with
  | some (.view .keys true mapping) => setOf p mapping
  | _ => setOf p v

/-- The items of some value that are also in a view. -/
def itemsWithin (p : Performer) (view v : Value) : Act Items := do
  goThrough p (← iteratorOf p v) (fun (found : Items) item => do
    if ← nativeHolds p view item then return (found.insert (← memberKey p found item), true)
    else return (found, true)) stepLimit .empty

/-- The items of some value that are not in another one. -/
def itemsOutside (p : Performer) (v other : Value) : Act Items := do
  goThrough p (← iteratorOf p v) (fun (found : Items) item => do
    if ← holds p other item then return (found, true)
    else return (found.insert (← memberKey p found item), true)) stepLimit .empty

/-- The items that one of two views of the items of dictionaries has. -/
def differentEntries (p : Performer) (a b : Dict) : Act Items := do
  let pair (e : DictKey × Value) : Act DictKey := do
    dictKey p (← newTuple [e.1.shown, e.2])
  let (left, found) ← b.pairs.foldlM (fun (acc : Dict × Items) e => do
    let same ← match acc.1.get? e.1 with
      | some v => p.equal v e.2
      | none => pure false
    if same then return (acc.1.erase e.1, acc.2)
    else return (acc.1, acc.2.insert (← pair e))) (a, Table.empty)
  return found.insertAll (← left.pairs.mapM pair)

/-- Combines a view of a dictionary with whatever can be gone through. -/
def combineDictView (p : Performer) (name : String) (self other : Value) : Act Items := do
  let w ← get
  let base := (exchanged? name).getD name
  let (a, b) := if base = name then (self, other) else (other, self)
  let entries? (v : Value) : Option Dict :=
    match w.object? v with
    | some (.view .items true mapping) =>
      match w.object? mapping with
      | some (.dict d) => some d
      | _ => none
    | _ => none
  match base with
  | "__and__" =>
    let mine ← nativeCount p self
    match w.object? other with
    | some (.set false items) =>
      if mine ≤ items.size then commonItems p other items self else itemsWithin p self other
    | some (.view aspect true _) =>
      if aspect != .values && (← nativeCount p other) > mine then itemsWithin p other self
      else itemsWithin p self other
    | _ => itemsWithin p self other
  | "__or__" => do addItems p unkept (← viewItems p a) b
  | "__sub__" => do removeItems p unkept .none (← viewItems p a) b
  | _ =>
    match entries? a, entries? b with
    | some d, some e => differentEntries p d e
    | _, _ => do toggleItems p .none (← viewItems p a) b

/-- Combines a view of a mapping that is no dictionary with a set, or with what is made into one. -/
def combineMappingView (p : Performer) (name : String) (self other : Value) : Act Items := do
  let asSet : Act Value := do
    if isSetLike (← get) other then return other else newSetOf false (← setOf p other)
  match name with
  | "__and__" | "__rand__" => itemsWithin p self other
  | "__or__" | "__ror__" => do
    withEach p unkept .insert (← withEach p unkept .insert .empty self) other
  | "__sub__" => do itemsOutside p self (← asSet)
  | "__rsub__" => do itemsOutside p (← asSet) self
  | _ =>
    let other ← asSet
    let mine ← itemsOutside p self other
    let theirs ← match ← look other with
      | some (.view _ true _) => do removeItems p unkept .none (← viewItems p other) self
      | _ => itemsOutside p other self
    return mine.copy.merge theirs

/-- Combines a view, as a set, with something else. A view of a mapping that is no dictionary leaves
what cannot be gone through to the other side. -/
def combineView (p : Performer) (name : String) (self other : Value) : Act Value := do
  match ← look self with
  | some (.view _ true _) => newSetOf false (← combineDictView p name self other)
  | _ =>
    if isIterable (← get) other then newSetOf false (← combineMappingView p name self other)
    else notImplemented

end Provision.Script
