import Provision.Script.Method.Basic

/-!
Methods of lists and tuples.

What changes a list while it is gone through is seen by the iterators that follow it, so every
method looks its list up again before it changes it. Sorting inserts one item after the other, by
halving, behind those that it is not less than; while a list is sorted it is empty.
-/

namespace Provision.Script

/-! ### Sorting -/

/-- A key and the item that it belongs to. -/
abbrev Keyed := Value × Value

/-- The place for a key among sorted ones, between two places, found in at most so many steps. -/
def placeFor (p : Performer) (sorted : Array Keyed) (key : Value) : Nat → Nat → Nat → Act Nat
  | 0, low, _ => return low
  | fuel + 1, low, high => do
    if low < high then
      let mid := low + (high - low) / 2
      if ← lessThan p key ((sorted[mid]?.map (·.1)).getD .none) then
        placeFor p sorted key fuel low mid
      else placeFor p sorted key fuel (mid + 1) high
    else return low

/-- How many items at the beginning are in order, and whether backwards. -/
def leadingRun (p : Performer) : List Keyed → Act (Nat × Bool)
  | a :: b :: rest => do
    let back ← lessThan p b.1 a.1
    return (2 + (← further back b rest), back)
  | items => return (items.length, false)
where
  /-- How many more items go on in the same way. -/
  further (back : Bool) (last : Keyed) : List Keyed → Act Nat
    | [] => return 0
    | c :: rest => do
      if (← lessThan p c.1 last.1) = back then return 1 + (← further back c rest) else return 0

/-- Inserts items into sorted ones, one after the other: the items as they were arranged at the end,
and the fault that cut it short. -/
def insertAll (p : Performer) : List Keyed → Array Keyed → Act (List Keyed × Option Fault)
  | [], sorted => return (sorted.toList, none)
  | x :: rest, sorted => do
    match ← Act.attempt (placeFor p sorted x.1 sorted.size 0 sorted.size) with
    | .ok i => insertAll p rest (sorted.toList.take i ++ x :: sorted.toList.drop i).toArray
    | .error e => return (sorted.toList ++ x :: rest, some e)

/-- Sorts items by their keys; items with equal keys keep their order. -/
def sortKeyed (p : Performer) (items : List Keyed) : Act (List Keyed × Option Fault) := do
  match ← Act.attempt (leadingRun p items) with
  | .error e => return (items, some e)
  | .ok (n, back) =>
    let run := items.take n
    insertAll p (items.drop n) (if back then run.reverse else run).toArray

/-- Sorts a list, by keys and backwards if that is asked for. -/
def sortList (p : Performer) (r : Nat) (named : Named) : Act Value := do
  match ← methodArguments "sort" [optional "key" .none, optional "reverse" (.bool false)] [] named with
  | [key, backwards] =>
    let back := (← wholeOf p backwards) != 0
    let items := ((World.listItems? (← look (.object r))).getD #[]).toList
    let store (xs : List Value) : Act Unit := do
      match ← look (.object r) with
      | some (.callList _) => put r (.callList xs.toArray)
      | _ => put r (.list xs.toArray)
    store []
    let (sorted, fault) ← match ← Act.attempt (items.mapM fun v => do
        if key = .none then return (v, v) else return (← p.call key [v] [], v)) with
      | .error e => pure (items.map fun v => (v, v), some e)
      | .ok pairs => do
        let (sorted, fault) ← sortKeyed p (if back then pairs.reverse else pairs)
        pure (if back then sorted.reverse else sorted, fault)
    let touched := !((World.listItems? (← look (.object r))).getD #[]).isEmpty
    store (sorted.map (·.2))
    match fault with
    | some e => throw e
    | none =>
      if touched then complain .value "list modified during sort"
      return .none
  | _ => return .none

/-! ### Looking for items -/

/-- The places that an optional beginning and an optional end stand for, of so many. -/
def boundsOf (p : Performer) (size : Nat) (args : List Value) : Act (Nat × Nat) := do
  let place (v : Value) (otherwise : Nat) : Act Nat := do
    match v with
    | .none => return otherwise
    | v =>
      match ← indexOf? p v with
      | some i => return (if i < 0 then max 0 (i + size) else i).toNat
      | none =>
        complain .type "slice indices must be integers or None or have an __index__ method"
  return (← place (args.head?.getD .none) 0, ← place ((args[1]?).getD .none) size)

/-- The place of an item among others, between two places. -/
def findItem (p : Performer) (items : List Value) (v : Value) (start stop : Nat) :
    Act (Option Nat) :=
  go start (items.drop start)
where
  /-- Goes on from a place. -/
  go (i : Nat) : List Value → Act (Option Nat)
    | [] => return none
    | a :: rest => do
      if i ≥ stop then return none
      else if ← p.equal a v then return some i
      else go (i + 1) rest

/-- The place of an item among those of a list or tuple. -/
def indexAmong (p : Performer) (cls : String) (items : List Value) (v : Value)
    (bounds : List Value) : Act Value := do
  if bounds.contains .none then
    complain .type "slice indices must be integers or have an __index__ method"
  let (start, stop) ← boundsOf p items.length bounds
  match ← findItem p items v start stop with
  | some i => return .int i
  | none =>
    if cls = "tuple" then complain .value "tuple.index(x): x not in tuple"
    else complain .value ((← p.repr v) ++ " is not in list")

/-- How often an item is among others. -/
def countAmong (p : Performer) (items : List Value) (v : Value) : Act Value := do
  return .int (← items.filterM fun a => p.equal a v).length

/-! ### Lists -/

/-- Puts what a value gives at the end of a list, one item at a time; what is a list or a tuple
already is taken as it is. -/
def extendList (p : Performer) (r : Nat) (v : Value) : Act Unit := do
  let push (xs : List Value) : Act Unit := do
    match ← look (.object r) with
    | some (.list items) => put r (.list (items ++ xs.toArray))
    | some (.callList items) => put r (.callList (items ++ xs.toArray))
    | _ => pure ()
  match World.sequenceItems? (← look v) with
  | some items => push items
  | none =>
    let it ← iteratorOf p v
    let asks := match ← look v with
      | some (.instance _) | some (.view _ false _) | some (.mock _) => true
      | _ => false
    if asks then
      match ← Act.attempt (discard (itemCount p v)) with
      | .ok _ => pure ()
      | .error e => if !(← isKind e "TypeError") then throw e
    goThrough p it (fun _ item => do push [item]; return ((), true)) stepLimit ()

/-- The methods of lists. -/
def listMember (p : Performer) (r : Nat) (items : Array Value) (name : String)
    (args : List Value) (named : Named) : Act Value := do
  let self := Value.object r
  let store (xs : Array Value) : Act Unit := do
    match ← look self with
    | some (.callList _) => put r (.callList xs)
    | _ => put r (.list xs)
  match name, args with
  | "append", [v] => store (items.push v); return .none
  | "extend", [v] => extendList p r v; return .none
  | "__iadd__", [v] => extendList p r v; return self
  | "pop", [] =>
    match items.back? with
    | some v => store items.pop; return v
    | none => complain .index "pop from empty list"
  | "pop", [i] =>
    let i ← sizeOf p i
    if items.isEmpty then complain .index "pop from empty list"
    let place ← placeOf p "list" "pop" items.size (.int i)
    store (items.toList.eraseIdx place).toArray
    return (items[place]?).getD .none
  | "insert", [i, v] =>
    let place ← sizeOf p i
    let place := if place < 0 then max 0 (place + items.size) else place
    store (items.toList.take place.toNat ++ v :: items.toList.drop place.toNat).toArray
    return .none
  | "remove", [v] =>
    match ← findItem p items.toList v 0 items.size with
    | some i =>
      let now := ((World.listItems? (← look self)).getD #[]).toList
      store (now.eraseIdx i).toArray
      return .none
    | none => complain .value "list.remove(x): x not in list"
  | "sort", [] => sortList p r named
  | "index", v :: bounds =>
    indexAmong p "list" items.toList v bounds
  | "count", [v] => countAmong p items.toList v
  | "copy", [] => alloc (.list items)
  | "clear", [] => store #[]; return .none
  | "reverse", [] => store items.reverse; return .none
  | "__reversed__", [] => newIterator "list_reverseiterator" (.listBack r items.size)
  | "__getitem__", [i] => nativeItem p self i
  | "__mul__", [n] | "__rmul__", [n] => newList (← repeated p items.toList n)
  | "__imul__", [n] =>
    store (← repeated p items.toList n).toArray
    return self
  | "__sizeof__", [] => return .int (56 + 8 * items.size)
  | _, _ => wrongCount "list" name args

/-- The methods of tuples. -/
def tupleMember (p : Performer) (items : List Value) (name : String) (args : List Value) :
    Act Value := do
  match name, args with
  | "index", v :: bounds =>
    indexAmong p "tuple" items v bounds
  | "count", [v] => countAmong p items v
  | "__mul__", [n] | "__rmul__", [n] => newTuple (← repeated p items n)
  | "__getnewargs__", [] => newTuple [← newTuple items]
  | "__sizeof__", [] => return .int (24 + 8 * items.length)
  | _, _ => wrongCount "tuple" name args

end Provision.Script
