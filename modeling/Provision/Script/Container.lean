import Provision.Script.Iteration

/-!
Containers: looking up, counting, changing.

This is where the environments of scripts answer lookups. A dictionary answers by its entries, a
composed environment searches its parts from the last to the first, a sequence hands out its first
item if it is asked for, and the environment of a rehearsal tries its sequence and then its
fallback, keeping a journal. What scripts put in the place of these operations comes first.
-/

namespace Provision.Script

/-! ### Absence -/

/-- Whether an error is a missing key. -/
def World.isMissingKey (w : World) (e : Fault) : Bool :=
  match w.kindOf e with
  | some kind => kind.isA "KeyError"
  | none => false

/-- Whether an error is a missing key whose only argument is the given one. -/
def saysAbsent (p : Performer) (name : Value) (e : Fault) : Act Bool := do
  match e, (← get).isMissingKey e with
  | .raised _ r, true =>
    let said ← p.read (.object r) "args"
    p.truth (← p.compare .eq said (← newTuple [name]))
  | _, _ => return false

/-- Looks a name up in an environment. -/
def findIn (p : Performer) (environment name : Value) : Act (Finding Value Fault) := do
  match ← Act.attempt (p.item environment name) with
  | .ok v => return .found v
  | .error e =>
    let handled := (← get).handled
    let said ← e.object
    match ← Act.attempt (whileHandling (said.toList ++ handled) (saysAbsent p name e)) with
    | .ok absent => return Finding.ofResult (fun _ => absent) (.error e)
    | .error problem => return .failed problem

/-! ### Sizes -/

/-- The number that a value stands for where a place or a size is asked for. -/
def indexOf? (p : Performer) (v : Value) : Act (Option Int) := do
  match World.number? v with
  | some n => return some n
  | none =>
    match ← overridden? p v "__index__" [] with
    | some a =>
      match World.number? a with
      | some n => return some n
      | none =>
        complain .type ("__index__ returned non-int (type " ++ (← get).typeName a ++ ")")
    | none => return none

/-- The error for a value without a length. -/
def noLength {α : Type} (v : Value) : Act α := do
  complain .type ("object of type '" ++ (← get).typeName v ++ "' has no len()")

/-- The names of the layers of a composed environment, if each of them is a dictionary and scripts
have no say in what its names are equal to. -/
def plainLayers? (w : World) (parts : Value) : Option (List (List DictKey)) := do
  let layers ← World.sequenceItems? (w.object? parts)
  layers.mapM fun layer =>
    match w.object? layer with
    | some (.dict entries) =>
      if entries.names.any (·.key.isPeculiar) then none else some entries.names
    | _ => none

/-- How many names there are in a composed environment. -/
def composedCount (p : Performer) (self : Value) : Act Nat := do
  let parts ← p.read self "environments"
  let w ← get
  match plainLayers? w parts, w.override? self "__iter__" with
  | some layers, none => return (firstArrivals layers).length
  | _, _ => goThrough p (← iteratorOf p self) (fun n _ => return (n + 1, true)) stepLimit 0

/-- How many items an object has by its class. -/
def nativeCount (p : Performer) (v : Value) : Act Nat := do
  let w ← get
  match v, w.object? v with
  | .text s, _ => return s.length
  | _, some (.list items) | _, some (.callList items) => return items.size
  | _, some (.tuple items) | _, some (.call items) => return items.length
  | _, some (.dict entries) => return entries.size
  | _, some (.set _ items) => return items.size
  | _, some (.bytes items) => return items.length
  | _, some (.instance (.known "ComposedEnvironment")) => composedCount p v
  | _, some (.view _ _ mapping) => measured mapping
  | _, some (.classView cls) => measured (← shownMapping cls)
  | _, _ => noLength v
where
  /-- How many items the mapping of a view has. -/
  measured (mapping : Value) : Act Nat := do
    match ← p.method mapping "__len__" [] [] with
    | .int n => return n.toNat
    | _ => noLength mapping

/-- The number that what scripts put in the place of a length gives. -/
def checkedLength (p : Performer) (v : Value) : Act Nat := do
  match ← indexOf? p v with
  | some n =>
    if n < 0 then complain .value "__len__() should return >= 0" else return n.toNat
  | none =>
    complain .type
      ("'" ++ (← get).typeName v ++ "' object cannot be interpreted as an integer")

/-- How many items there are; anything that is not a container has no length. -/
def itemCount (p : Performer) (v : Value) : Act Nat := do
  if (← get).override? v "__len__" == some .none then noLength v
  match ← overridden? p v "__len__" [] with
  | some n => checkedLength p n
  | none => nativeCount p v

/-- The items of a value, for a new list or tuple. Somebody who makes one asks, once the iteration
has begun, how many items there are to be; without an answer it is made all the same. -/
def listOf (p : Performer) (v : Value) : Act (List Value) := do
  let it ← iteratorOf p v
  let w ← get
  let asks := match w.object? v with
    | some (.instance _) | some (.view _ false _) | some (.mock _) => true
    | _ => false
  let asked ← if asks then Act.attempt (discard (itemCount p v)) else pure (.ok ())
  match asked with
  | .ok _ => itemsOf p it
  | .error e => if ← isKind e "TypeError" then itemsOf p it else throw e

/-- Whether a value counts as true. -/
def truthOf (p : Performer) (v : Value) : Act Bool := do
  match v with
  | .none => return false
  | .bool b => return b
  | .int i => return i != 0
  | .text s => return s != ""
  | .object _ =>
    match ← overridden? p v "__bool__" [] with
    | some (.bool b) => return b
    | some a =>
      complain .type ("__bool__ should return bool, returned " ++ (← get).typeName a)
    | none =>
      match ← overridden? p v "__len__" [] with
      | some n => return (← checkedLength p n) != 0
      | none =>
        match ← look v with
        | some (.list _) | some (.callList _) | some (.tuple _) | some (.call _)
        | some (.dict _) | some (.set ..) | some (.bytes _) | some (.classView _)
        | some (.view ..) | some (.instance (.known "ComposedEnvironment")) =>
          return (← nativeCount p v) != 0
        | _ => return true

/-! ### Sequences -/

/-- What is left of a list, tuple or text without its first item; what is something else is asked for
it by a slice. -/
def withoutFirst (p : Performer) (v : Value) : Act Value := do
  match v, ← look v with
  | .text s, _ => return .text (String.ofList (s.toList.drop 1))
  | _, some (.list items) | _, some (.callList items) => newList (items.toList.drop 1)
  | _, some (.tuple items) | _, some (.call items) => newTuple (items.drop 1)
  | _, some (.bytes items) => alloc (.bytes (items.drop 1))
  | _, _ => p.item v (← alloc (.symbol "slice" "slice(1, None, None)"))

/-- The name a label stands for. -/
def labelName (p : Performer) (v : Value) : Act Value := do
  if (← get).isInstance v "Token" then p.read v "name" else return v

/-- The next item of a sequence, if it is the one that is asked for. -/
def takeFrom (p : Performer) (self name : Value) : Act (Option Value) := do
  let first : Act (Option (Value × Value)) := do
    if (← itemCount p (← p.read self "sequence")) = 0 then return none
    return some (← unpackPair p (← p.item (← p.read self "sequence") (.int 0)))
  let asked (item : Value × Value) : Act Bool := do
    return !(← p.truth (← p.compare .ne (← labelName p item.1) name))
  let drop : Act Unit := do
    if let .object r := self then
      putOwn r "sequence" (← withoutFirst p (← p.read self "sequence"))
  return (← takeNext first asked drop).map (·.2)

/-- Looks a name up in a sequence. -/
def sequenceItem (p : Performer) (sequence name : Value) : Act Value := do
  match ← takeFrom p sequence name with
  | some v => return v
  | none => raise .key [name]

/-! ### Rehearsals -/

/-- The name an item of a sequence is for. -/
def itemName (p : Performer) (item : Value) : Act Value := do
  labelName p (← p.item item (.int 0))

/-- What a rehearsal says of a service that it does not have. -/
def rehearsalText (p : Performer) (sequence name : Value) (journal : Journal Value) :
    Act String := do
  let left ← p.read sequence "sequence"
  let next ←
    if (← itemCount p left) = 0 then pure none
    else do pure (some (← p.str (← itemName p (← p.item left (.int 0)))))
  let journal ← journal.mapM fun entry => do return (entry.1, ← p.str entry.2)
  return unknownText (← p.str name) journal next

/-- Looks a name up in a rehearsal. -/
def rehearsalItem (p : Performer) (r : Nat) (sequence fallback name : Value)
    (journal : Journal Value) : Act Value := do
  let missing := fun e => do return (← get).isMissingKey e
  let keep := fun journal => put r (.rehearsal sequence fallback journal)
  let unknown := fun journal (said : Fault) => do
    let handled := (← get).handled
    let said ← said.object
    whileHandling (said.toList ++ handled) do
      complain .assertion (← rehearsalText p sequence name journal)
  Act.ofResult <| ← lookupRehearsed missing keep unknown name journal
    (Act.attempt (p.item sequence name)) (Act.attempt (p.item fallback name))

/-! ### Items -/

/-- The greatest number that can be an index. -/
def indexLimit : Nat := 9223372036854775807

/-- The place of an index that may count from the end, for something that is done to a sequence of
some class. -/
def placeOf (p : Performer) (cls what : String) (size : Nat) (key : Value) : Act Nat := do
  match ← indexOf? p key with
  | some i =>
    if i.natAbs > indexLimit then
      complain .index "cannot fit 'int' into an index-sized integer"
    let i := if i < 0 then i + size else i
    if i < 0 || i ≥ size then complain .index ((if what = "index" then what else what ++ " index") ++ " out of range")
    return i.toNat
  | none =>
    let given := (← get).typeName key
    complain .type <|
      if cls = "byte" then "byte indices must be integers or slices, not " ++ given
      else cls ++ " indices must be integers" ++
        if cls = "string" then ", not '" ++ given ++ "'" else " or slices, not " ++ given

/-- The item of a list at an index that may count from the end. -/
def atIndex (p : Performer) (cls : String) (items : List Value) (key : Value) : Act Value := do
  let what := if cls = "byte" then "index" else cls
  return (items[← placeOf p cls what items.length key]?).getD .none

/-- Looks a name up in the parts of a composed environment, the last one first. The parts are gone
through as they are when their turn comes. -/
def composedItem (p : Performer) (self name : Value) : Act Value := do
  let it ← reverseIteratorOf p (← p.read self "environments")
  match ← searchAlong (throw .spent) (nextOf p it) (findIn p · name) stepLimit with
  | some result => Act.ofResult result
  | none => raise .key [name]

/-- The error for a value without items. -/
def notSubscriptable {α : Type} (v : Value) : Act α := do
  let w ← get
  complain .type <|
    match w.asClass? v with
    | some c => "type '" ++ w.className c ++ "' is not subscriptable"
    | none => "'" ++ w.typeName v ++ "' object is not subscriptable"

/-- Looks a key up as the class of a container does. -/
def nativeItem (p : Performer) (container key : Value) : Act Value := do
  let w ← get
  match container, w.object? container with
  | .text s, _ => atIndex p "string" (characters s) key
  | _, some (.list items) | _, some (.callList items) => atIndex p "list" items.toList key
  | _, some (.tuple items) | _, some (.call items) => atIndex p "tuple" items key
  | _, some (.bytes items) =>
    atIndex p "byte" (byteValues items) key
  | _, some (.dict entries) =>
    match entries.get? (← keyAmong p entries key) with
    | some v => return v
    | none => raise .key [key]
  | _, some (.classView cls) => p.item (← shownMapping cls) key
  | .object r, some (.rehearsal sequence fallback journal) =>
    rehearsalItem p r sequence fallback key journal
  | _, some (.instance (.known cls)) =>
    match cls with
    | "ComposedEnvironment" => composedItem p container key
    | "SequenceEnvironment" => sequenceItem p container key
    | "LookupEnv" => p.call (← p.read container "f") [key] []
    | "Recording" =>
      noteAll p [.text "get", key]
      p.item (← p.read container "env") key
    | _ => notSubscriptable container
  | _, _ => notSubscriptable container

/-- Looks a key up in a container. -/
def getItem (p : Performer) (container key : Value) : Act Value := do
  match ← overridden? p container "__getitem__" [key] with
  | some v => return v
  | none => nativeItem p container key

/-- Looks a key up with a value for the case that it is missing. -/
def itemOr (p : Performer) (container key otherwise : Value) : Act Value := do
  match ← Act.attempt (p.item container key) with
  | .ok v => return v
  | .error e => if (← get).isMissingKey e then return otherwise else throw e

/-- Whether a mapping has a key. -/
def hasKey (p : Performer) (mapping key : Value) : Act Bool := do
  match ← Act.attempt (p.item mapping key) with
  | .ok _ => return true
  | .error e => if (← get).isMissingKey e then return false else throw e

/-- Whether a view holds an item. -/
def viewHolds (p : Performer) (aspect : Aspect) (ofDict : Bool) (view mapping item : Value) :
    Act Bool := do
  match aspect, ofDict, ← look item with
  | .keys, _, _ => p.truth (← p.method mapping "__contains__" [item] [])
  | .items, true, some (.tuple [k, v]) => entryIs k v
  | .items, true, _ => return false
  | .items, false, _ =>
    let (k, v) ← unpackPair p item
    entryIs k v
  | .values, true, _ => anyOf p view fun v => p.equal v item
  | .values, false, _ => anyOf p mapping fun k => do p.equal (← p.item mapping k) item
where
  /-- Whether a key of the mapping has a value. -/
  entryIs (k v : Value) : Act Bool := do
    match ← Act.attempt (p.item mapping k) with
    | .ok a => p.equal a v
    | .error e => if (← get).isMissingKey e then return false else throw e

/-- Whether some items hold one that is equal to another. -/
def among (p : Performer) (items : List Value) (item : Value) : Act Bool :=
  items.anyM fun v => p.equal v item

/-- Whether a list is a part of another one, from some place on. -/
def isPart (p : Performer) (part items : List Value) : Act Bool :=
  (List.range (items.length + 1 - part.length)).anyM fun i =>
    if part.length > items.length then return false
    else sameItems p ((items.drop i).take part.length) part

/-- Whether a container holds an item, as its class says. -/
def nativeHolds (p : Performer) (container item : Value) : Act Bool := do
  let w ← get
  match container, w.object? container with
  | .text s, _ =>
    match item with
    | .text t => return (s.splitOn t).length > 1 || t = ""
    | _ =>
      complain .type ("'in <string>' requires string as left operand, not " ++ w.typeName item)
  | _, some (.callList items) =>
    match World.listItems? (w.object? item) with
    | some part => isPart p part.toList items.toList
    | none => among p items.toList item
  | _, some (.list items) => among p items.toList item
  | _, some (.tuple items) | _, some (.call items) => among p items item
  | _, some (.dict entries) => return entries.contains (← keyAmong p entries item)
  | _, some (.set _ items) => return items.contains (← settledKey p items.items (← dictKey p item))
  | _, some (.bytes items) =>
    match ← indexOf? p item, w.object? item with
    | some n, _ =>
      if n < 0 || n > 255 then complain .value "byte must be in range(0, 256)"
      return items.any fun m => n == m
    | none, some (.bytes part) =>
      return (List.range (items.length + 1)).any fun i => part.isPrefixOf (items.drop i)
    | none, _ =>
      complain .type ("a bytes-like object is required, not '" ++ w.typeName item ++ "'")
  | _, some (.classView cls) =>
    p.truth (← p.method (← shownMapping cls) "__contains__" [item] [])
  | _, some (.instance (.known "ComposedEnvironment")) => hasKey p container item
  | _, some (.view aspect ofDict mapping) => viewHolds p aspect ofDict container mapping item
  | _, _ =>
    match ← Act.attempt (iteratorOf p container) with
    | .ok it => anyOf p it fun v => p.equal v item
    | .error e =>
      if ← isKind e "TypeError" then
        complain .type ("argument of type '" ++ w.typeName container ++ "' is not iterable")
      else throw e

/-- Whether a container holds an item. -/
def holds (p : Performer) (container item : Value) : Act Bool := do
  match ← overridden? p container "__contains__" [item] with
  | some v => p.truth v
  | none => nativeHolds p container item

/-- Whether what objects of a class hold might have places: collections are of this kind, and
objects of the classes that belong to a module. -/
def mayHavePlaces : ClassRef → Bool
  | .made _ => true
  | .known name =>
    ["str", "bytes", "tuple", "set", "frozenset", "mappingproxy", "dict_keys", "dict_values",
      "dict_items"].contains name || namesModule name
where
  /-- Whether the class says to what module it belongs. -/
  namesModule (name : String) : Bool :=
    (lineage name).any fun c => ((classInfo? c).map (·.constants.contains "__module__")).getD false

/-- The error for a value whose items cannot be changed. If it could have places, an index that is
too large for one is reported first. -/
def notAssignable {α : Type} (p : Performer) (v key : Value) (change : String) : Act α := do
  if mayHavePlaces ((← get).classOf v) then
    match ← indexOf? p key with
    | some i =>
      if i.natAbs > indexLimit then
        complain .index "cannot fit 'int' into an index-sized integer"
    | none => pure ()
  complain .type ("'" ++ (← get).typeName v ++ "' object " ++ change)

/-- Binds a key of a dictionary, or replaces an item of a list. -/
def setItem (p : Performer) (container key a : Value) : Act Unit := do
  match ← overridden? p container "__setitem__" [key, a] with
  | some _ => pure ()
  | none =>
    match container, ← look container with
    | .object r, some (.dict _) => bindEntry p r (← dictKey p key) a
    | .object r, some (.list items) =>
      let place ← placeOf p "list" "list assignment" items.size key
      put r (.list (items.setIfInBounds place a))
    | .object r, some (.callList items) =>
      let place ← placeOf p "list" "list assignment" items.size key
      put r (.callList (items.setIfInBounds place a))
    | _, _ => notAssignable p container key "does not support item assignment"

/-! ### The names of composed environments -/

/-- Goes on with the iteration of a composed environment: the next name that none of its layers has
given before, and how it stands then. -/
def nextArrival (p : Performer) (environment given : Value)
    (progress : Option (Value × Option Value)) :
    Act (Option Value × Option (Value × Option Value)) := do
  let (layers, names) ← match progress with
    | some progress => pure progress
    | none => do pure (← iteratorOf p (← p.read environment "environments"), none)
  let nextLayer : Act (Option Value) := do
    match ← nextOf p layers with
    | some layer => return some (← iteratorOf p layer)
    | none => return none
  match ← nextUnseen (throw .spent) nextLayer (nextOf p) (holds p given)
      (setItem p given · .none) stepLimit names with
  | some (name, names) => return (some name, some (layers, some names))
  | none => return (none, some (layers, none))

/-! ### Sums -/

/-- What the class of a value makes of adding another value to it; there is nothing if it does not
know that one. -/
def nativeAdd (a b : Value) : Act (Option Value) := do
  let w ← get
  match World.number? a, World.number? b with
  | some m, some n => return some (.int (m + n))
  | _, _ =>
    match a, b, w.object? a, w.object? b with
    | .text s, .text t, _, _ => return some (.text (s ++ t))
    | .text _, _, _, _ => refuse w "str"
    | _, _, some (.bytes s), some (.bytes t) => return some (← alloc (.bytes (s ++ t)))
    | _, _, some (.bytes _), _ =>
      complain .type ("can't concat " ++ w.typeName b ++ " to bytes")
    | _, _, x, y =>
      match World.listItems? x, World.listItems? y with
      | some xs, some ys => return some (← alloc (.list (xs ++ ys)))
      | some _, none => refuse w "list"
      | none, _ =>
        match x, World.sequenceItems? x, World.sequenceItems? y with
        | _, some xs, some ys =>
          if World.belongsTo "tuple" (w.classOf b) then return some (← newTuple (xs ++ ys))
          else refuse w "tuple"
        | _, some _, none => refuse w "tuple"
        | _, none, _ => return none
where
  /-- Something else cannot be put after a text, a list or a tuple. -/
  refuse (w : World) (cls : String) : Act (Option Value) :=
    complain .type
      ("can only concatenate " ++ cls ++ " (not \"" ++ w.typeName b ++ "\") to " ++ cls)

/-- The sum of two numbers, or one text or list after another. What scripts put in the place of
adding comes first, on the side of the first value and then on that of the second one. -/
def addValues (p : Performer) (a b : Value) : Act Value := do
  let known (v : Option Value) : Act (Option Value) := do
    match v with
    | some v => if ← isNotImplemented v then return none else return some v
    | none => return none
  let attempts := [
    do known (← overridden? p a "__add__" [b]),
    do known (← overridden? p b "__radd__" [a]),
    nativeAdd a b]
  match ← attempts.findSomeM? id with
  | some v => return v
  | none =>
    let w ← get
    complain .type ("unsupported operand type(s) for +: '" ++ w.typeName a ++ "' and '" ++
      w.typeName b ++ "'")

/-! ### Building environments -/

/-- A key of a mapping as a label; an equal one may be known already. -/
def labelOf (p : Performer) (known : List DictKey) (v : Value) : Act (Label DictKey Value) := do
  let w ← get
  let key ← settledKey p known (← dictKey p (← labelName p v))
  if w.isInstance v "Token" then return .token ⟨key, (w.ownOf? v "contract").getD .none⟩
  else return .name key

/-- The pairs of a mapping with their keys as labels. -/
def labelled (p : Performer) (known : List DictKey) (mapping : Value) :
    Act (List (Label DictKey Value × Value)) := do
  let items ← iteratorOf p (← p.method mapping "items" [] [])
  let start : Array (Label DictKey Value × Value) := #[]
  let pairs ← goThrough p items (fun pairs item => do
    let (k, v) ← unpackPair p item
    let label ← labelOf p (known ++ pairs.toList.map (·.1.key)) k
    return (pairs.push (label, v), true)) stepLimit start
  return pairs.toList

/-- The store of a script, as a place where mappings are kept. -/
def shelf (p : Performer) : Shelf Act Value DictKey Value Value :=
  ⟨labelled p, p.truth, newDictOf⟩

/-- A new environment from mappings and named implementations. -/
def newEnvironment (p : Performer) (mappings : List Value) (named : Named) : Act Value :=
  (shelf p).assemble (.environment mappings (textPairs named))

/-- One item of a list of pairs, as an entry of a dictionary. -/
def pairEntry (p : Performer) (index : Nat) (item : Value) : Act (DictKey × Value) := do
  match ← Act.attempt (itemsOf p item) with
  | .ok [k, v] => return (← dictKey p k, v)
  | .ok items =>
    complain .value ("dictionary update sequence element #" ++ toString index ++ " has length " ++
      toString items.length ++ "; 2 is required")
  | .error e =>
    if ← isKind e "TypeError" then
      complain .type ("cannot convert dictionary update sequence element #" ++ toString index ++
        " to a sequence")
    else throw e

/-- Passes on the entries that a dictionary made of a mapping, or of pairs, is to have. -/
def forEntriesOf (p : Performer) (v : Value) (f : DictKey → Value → Act Unit) : Act Unit := do
  match ← look v with
  | some (.dict entries) => entries.pairs.forM fun e => f e.1 e.2
  | _ =>
    if ← exposes p v "keys" then
      forEachOf p (← p.method v "keys" [] []) fun k => do
        let a ← p.item v k
        f (← dictKey p k) a
    else
      let it ← iteratorOf p v
      discard <| goThrough p it (fun i item => do
        let (k, a) ← pairEntry p i item
        f k a
        return (i + 1, true)) stepLimit 0

/-- Binds the entries of a mapping, or of pairs, in a dictionary. -/
def bindEntriesOf (p : Performer) (r : Nat) (v : Value) : Act Unit := do
  if v == .object r then return ()
  match ← look v with
  | some (.dict entries) => bindAll p r entries
  | _ => forEntriesOf p v (bindEntry p r)

/-- The entries that a dictionary made of a mapping, or of pairs, is to have. -/
def entriesOf (p : Performer) (v : Value) : Act (List (DictKey × Value)) := do
  let scratch ← alloc (.dict .empty)
  match scratch with
  | .object r =>
    bindEntriesOf p r v
    match ← look scratch with
    | some (.dict entries) => return entries.pairs
    | _ => return []
  | _ => return []

end Provision.Script
