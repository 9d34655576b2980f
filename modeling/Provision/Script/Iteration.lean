import Provision.Script.Operation

/-!
Iteration: going through what a value gives, one item at a time.

`iteratorOf` makes the iterator of a value, `nextOf` takes one item from it, and `forEachOf` goes
through all of them; nothing is taken before it is asked for. What scripts put in the place of these
operations comes first. The iterators of views of mappings are generators written in the language of
scripts itself.
-/

namespace Provision.Script

/-! ### Making iterators -/

/-- The iteration of a view of a mapping. -/
def viewCode : Aspect → List Stmt
  | .keys => [.delegate none (.var "self")]
  | .values => [.forEach "key" (.var "self") [.yield none value]]
  | .items => [.forEach "key" (.var "self") [.yield none (.tuple [.var "key", value])]]
where
  /-- The value of a key. -/
  value : Expr := .library "getitem" [.var "self", .var "key"] []

/-- A new generator that goes through statements. -/
def newGenerator (name : String) (locals : List (String × Value)) (code : List Stmt) : Act Value :=
  newSuspended name .generator (.script ⟨.generator, locals, [.block code], .start⟩)

/-- A new iterator. -/
def newIterator (cls : String) (cursor : Cursor) : Act Value := alloc (.iterator cls (some cursor))

/-- The characters of a text, as values. -/
def characters (s : String) : List Value := s.toList.map fun c => .text c.toString

/-- Bytes, as values. -/
def byteValues (items : List Nat) : List Value := items.map fun n => .int (Int.ofNat n)

/-- The entries of a dictionary. -/
def entriesAt? : Option Obj → Option Dict
  | some (.dict entries) => some entries
  | _ => none

/-- A new iterator of a dictionary, from its first key on or from its last key back. -/
def newDictIterator (r : Nat) (aspect : Aspect) (back : Bool) : Act Value := do
  let size := ((entriesAt? (← look (.object r))).map (·.size)).getD 0
  let word := match aspect with
    | .keys => "key"
    | .values => "value"
    | .items => "item"
  let clock := (← get).clock
  newIterator ("dict_" ++ (if back then "reverse" else "") ++ word ++ "iterator")
    (.dict r aspect back (if back then clock else 0) size size)

/-- The error for a value that cannot be iterated. -/
def notIterable {α : Type} (v : Value) : Act α := do
  complain .type ("'" ++ (← get).typeName v ++ "' object is not iterable")

/-- The iterator that the class of a value gives. -/
def nativeIterator (p : Performer) (v : Value) : Act Value := do
  let w ← get
  match v, w.object? v with
  | .text s, _ =>
    let cls := if s.toList.all fun c => c.toNat < 128 then "str_ascii_iterator" else "str_iterator"
    newIterator cls (.items (characters s).toArray 0)
  | .object r, some o =>
    match o with
    | .list _ | .callList _ => newIterator "list_iterator" (.list r 0)
    | .tuple items | .call items => newIterator "tuple_iterator" (.items items.toArray 0)
    | .bytes items => newIterator "bytes_iterator" (.items (byteValues items).toArray 0)
    | .dict _ => newDictIterator r .keys false
    | .set _ items => newIterator "set_iterator" (.places r 0 items.size items.size)
    | .view aspect true (.object d) =>
      match w.object? (.object d) with
      | some (.dict _) => newDictIterator d aspect false
      | _ => p.iterate (.object d)
    | .view aspect _ mapping =>
      newGenerator (viewClass aspect false ++ ".__iter__") [("self", mapping)] (viewCode aspect)
    | .classView cls => p.iterate (← shownMapping cls)
    | .instance (.known "Token") | .instance (.known "SubToken") =>
      newSuspended "Token.__iter__" .generator (.request v false)
    | .instance (.known "ComposedEnvironment") =>
      let given ← newDictOf .empty
      newSuspended "ComposedEnvironment.__iter__" .generator (.arrivals v given none)
    | .iterator .. | .operation .. | .wrapper _ => return v
    | .suspended s => if s.style = .generator then return v else notIterable v
    | .rehearsal .. => newIterator "iterator" (.lookups v 0)
    | .instance (.known name) =>
      if (definingClass? name "__getitem__").isSome then newIterator "iterator" (.lookups v 0)
      else notIterable v
    | .instance cls =>
      if (w.inherited? cls "__getitem__").isSome then newIterator "iterator" (.lookups v 0)
      else notIterable v
    | .mock m =>
      if (m.operators.lookup "__getitem__").isSome then newIterator "iterator" (.lookups v 0)
      else notIterable v
    | _ => notIterable v
  | _, _ => notIterable v

/-- Whether a value has a next item. -/
def isIterator (w : World) (v : Value) : Bool :=
  match w.object? v with
  | some (.iterator ..) | some (.operation ..) | some (.wrapper _) => true
  | some (.suspended s) => s.style = .generator
  | some (.instance (.known "SubToken")) => true
  | some (.instance _) => (w.override? v "__next__").isSome
  | some (.mock m) => (m.operators.lookup "__next__").isSome || givenOperator? m "__next__"
  | _ => false

/-- The iterator of a value. -/
def iteratorOf (p : Performer) (v : Value) : Act Value := do
  if (← get).override? v "__iter__" == some .none then notIterable v
  match ← overridden? p v "__iter__" [] with
  | none => nativeIterator p v
  | some it =>
    let w ← get
    if isIterator w it then return it
    else complain .type ("iter() returned non-iterator of type '" ++ w.typeName it ++ "'")

/-- The iterator of a value from its end to its beginning. -/
def reverseIteratorOf (p : Performer) (v : Value) : Act Value := do
  if (← get).override? v "__reversed__" == some .none then return ← notReversible
  match ← overridden? p v "__reversed__" [] with
  | some it => return it
  | none =>
    let w ← get
    match v, w.object? v with
    | .text s, _ => newIterator "reversed" (.items (characters s).reverse.toArray 0)
    | .object r, some (.list items) | .object r, some (.callList items) =>
      newIterator "list_reverseiterator" (.listBack r items.size)
    | _, some (.tuple items) | _, some (.call items) =>
      newIterator "reversed" (.items items.reverse.toArray 0)
    | _, some (.bytes items) =>
      newIterator "reversed" (.items (byteValues items).reverse.toArray 0)
    | .object r, some (.dict _) => newDictIterator r .keys true
    | _, some (.view aspect true (.object d)) => newDictIterator d aspect true
    | _, some (.instance (.known name)) =>
      if name != "ComposedEnvironment" && (definingClass? name "__getitem__").isSome then counted
      else notReversible
    | _, some (.instance _) =>
      if (w.override? v "__getitem__").isSome then counted else notReversible
    | _, some (.mock m) =>
      if (m.operators.lookup "__getitem__").isSome || givenOperator? m "__getitem__" then counted
      else notReversible
    | _, _ => notReversible
where
  /-- The error for a value that cannot be gone through backwards. -/
  notReversible : Act Value := do
    complain .type ("'" ++ (← get).typeName v ++ "' object is not reversible")
  /-- Goes by the places from the last one to the first. -/
  counted : Act Value := do
    match ← overridden? p v "__len__" [] with
    | some (.int n) => newIterator "reversed" (.lookupsBack v n.toNat)
    | _ => complain .type ("object of type '" ++ (← get).typeName v ++ "' has no len()")

/-- Whether objects of the class of a value can be gone through. -/
def isIterable (w : World) (v : Value) : Bool :=
  match w.object? v with
  | some (.mock m) => (m.operators.lookup "__iter__").isSome || givenOperator? m "__iter__"
  | _ =>
    match w.inherited? (w.classOf v) "__iter__" with
    | some (.value .none) | none => false
    | _ => true

/-! ### Taking items -/

/-- What an iteration over a dictionary gives for an entry. -/
def aspectOf (aspect : Aspect) (e : DictKey × Value) : Act Value :=
  match aspect with
  | .keys => return e.1.shown
  | .values => return e.2
  | .items => newTuple [e.1.shown, e.2]

/-- The next item of an iteration, and the cursor behind it. -/
def advanceCursor (p : Performer) : Cursor → Act (Option (Value × Cursor))
  | .items all i => return all[i]?.map fun v => (v, .items all (i + 1))
  | .list r i => do
    return (World.listItems? (← look (.object r))).bind fun items =>
      items[i]?.map fun v => (v, .list r (i + 1))
  | .listBack r n => do
    return (World.listItems? (← look (.object r))).bind fun items =>
      if n = 0 then none else items[n - 1]?.map fun v => (v, .listBack r (n - 1))
  | .dict r aspect back stamp size left => do
    match entriesAt? (← look (.object r)) with
    | some entries =>
      if entries.size != size then complain .runtime "dictionary changed size during iteration"
      let found :=
        if back then (entries.pairs.filter fun e => e.1.stamp < stamp).getLast?
        else entries.pairs.find? fun e => e.1.stamp ≥ stamp
      match found with
      | none => return none
      | some e =>
        if left = 0 then complain .runtime "dictionary keys changed during iteration"
        let stamp := if back then e.1.stamp else e.1.stamp + 1
        return some (← aspectOf aspect e, .dict r aspect back stamp size (left - 1))
    | none => return none
  | .places r i size left => do
    match ← look (.object r) with
    | some (.set _ items) =>
      if items.size != size then complain .runtime "Set changed size during iteration"
      let next := (items.places.toList.zipIdx.drop i).findSome? fun e =>
        e.1.item?.map fun k => (k.shown, Cursor.places r (e.2 + 1) size (left - 1))
      return next
    | _ => return none
  | .lookupsBack _ 0 => return none
  | .lookupsBack v (n + 1) => lookUp v n (.lookupsBack v n)
  | .lookups v i => lookUp v i (.lookups v (i + 1))
where
  /-- The item at a place; iteration ends where there is none. -/
  lookUp (v : Value) (i : Nat) (next : Cursor) : Act (Option (Value × Cursor)) := do
    match ← Act.attempt (p.item v (.int i)) with
    | .ok item => return some (item, next)
    | .error e =>
      if (← isKind e "IndexError") || (← isKind e "StopIteration") then return none else throw e

/-- The next item that the class of an iterator gives. -/
def nativeNext (p : Performer) (it : Value) : Act (Option Value) := do
  match it, ← look it with
  | .object r, some (.iterator cls (some cursor)) =>
    match ← advanceCursor p cursor with
    | some (v, cursor) =>
      put r (.iterator cls (some cursor))
      return some v
    | none =>
      put r (.iterator cls none)
      return none
  | _, some (.iterator _ none) => return none
  | .object r, some (.suspended s) =>
    if s.style = .generator then
      match ← sendTo p r .none with
      | .returns _ => return none
      | reply => return some reply.value
    else notIterator
  | _, some (.operation ..) | _, some (.wrapper _) =>
    match ← p (.advance it .none) with
    | .returns _ => return none
    | reply => return some reply.value
  | _, some (.instance (.known "SubToken")) =>
    match ← Act.attempt (p.method it "__next__" [] []) with
    | .ok v => return some v
    | .error e => if ErrorLike.nature e = .ended then return none else throw e
  | _, _ => notIterator
where
  /-- Only iterators have a next item. -/
  notIterator : Act (Option Value) := do
    complain .type ("'" ++ (← get).typeName it ++ "' object is not an iterator")

/-- The next item of an iterator. -/
def nextOf (p : Performer) (it : Value) : Act (Option Value) := do
  match ← Act.attempt (overridden? p it "__next__" []) with
  | .ok none => nativeNext p it
  | .ok (some v) => return some v
  | .error e => if ErrorLike.nature e = .ended then return none else throw e

/-- The number of steps that may be taken without a wait. -/
def stepLimit : Nat := 1000000000

/-- Goes through the items of an iterator, keeping a state, until there is a result. -/
def goThrough {σ : Type} (p : Performer) (it : Value) (f : σ → Value → Act (σ × Bool)) :
    Nat → σ → Act σ :=
  through (throw .spent) (nextOf p it) f

/-- Does something with each item of a value. -/
def forEachOf (p : Performer) (v : Value) (f : Value → Act Unit) : Act Unit := do
  goThrough p (← iteratorOf p v) (fun _ item => do f item; return ((), true)) stepLimit ()

/-- The items of a value. -/
def itemsOf (p : Performer) (v : Value) : Act (List Value) := do
  let items ← goThrough p (← iteratorOf p v)
    (fun (items : Array Value) item => return (items.push item, true)) stepLimit #[]
  return items.toList

/-- Whether some item of a value has a property; the iteration stops there. -/
def anyOf (p : Performer) (v : Value) (holds : Value → Act Bool) : Act Bool := do
  goThrough p (← iteratorOf p v)
    (fun _ item => do
      let found ← holds item
      return (found, !found)) stepLimit false

/-- What an action does with each item of a value, in order. -/
def mapOf {α : Type} (p : Performer) (v : Value) (f : Value → Act α) : Act (List α) := do
  let results ← goThrough p (← iteratorOf p v)
    (fun (results : Array α) item => do return (results.push (← f item), true)) stepLimit #[]
  return results.toList

/-- Takes items from an iterator, at most so many. -/
def takeItems (p : Performer) (it : Value) : Nat → Act (List Value)
  | 0 => return []
  | n + 1 => do
    match ← nextOf p it with
    | none => return []
    | some v => return v :: (← takeItems p it n)

/-- The two parts of a pair. -/
def unpackPair (p : Performer) (v : Value) : Act (Value × Value) := do
  let it ← match ← Act.attempt (iteratorOf p v) with
    | .ok it => pure it
    | .error e =>
      let w ← get
      let foreign := !isIterable w v && (w.inherited? (w.classOf v) "__getitem__").isNone
      if foreign && (← isKind e "TypeError") then
        complain .type ("cannot unpack non-iterable " ++ w.typeName v ++ " object")
      else throw e
  match ← takeItems p it 3 with
  | [a, b] => return (a, b)
  | [_, _, _] => complain .value "too many values to unpack (expected 2)"
  | items =>
    complain .value
      ("not enough values to unpack (expected 2, got " ++ toString items.length ++ ")")

/-! ### Waiting for an iterator -/

/-- Sends a value to something that is waited for. Iterators other than generators take none. -/
def advanceAwaited (p : Performer) (inner v : Value) : Act Reply := do
  match inner, ← look inner with
  | .object r, some (.suspended _) => sendTo p r v
  | .object o, some (.operation r op stage) => sendToOperation p o r op stage v
  | _, some (.wrapper r) => sendTo p r v
  | _, some (.iterator ..) | _, some (.instance _) | _, some (.mock _) =>
    if v != .none then return .yields (← p.method inner "send" [v] [])
    match ← Act.attempt (overridden? p inner "__next__" []) with
    | .ok (some item) => return .yields item
    | .ok none =>
      match ← nativeNext p inner with
      | some item => return .yields item
      | none => return .returns .none
    | .error e =>
      if ErrorLike.nature e = .ended then return .returns (endValue (← get) e) else throw e
  | _, _ => refuseAwait inner

end Provision.Script
