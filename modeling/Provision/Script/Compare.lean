import Provision.Script.Display

/-!
Equality, order and keys.

Scalars are equal by value, a truth value counting as 0 or 1; lists, tuples and dictionaries are
equal by their contents, and the library's records if they are of exactly the same class and equal
field by field. Everything else is equal to itself only. A class compares its objects with what it
knows (`compareBy`) and leaves the rest to the class of the other side; a more special class comes
first (`compareValues`). `keyOf` gives what a value is compared by when it serves as a key, or the
error of a class whose objects cannot serve as one.
-/

namespace Provision.Script

/-- A truth value as a number, and a number as itself. -/
def World.number? : Value → Option Int
  | .bool b => some (if b then 1 else 0)
  | .int i => some i
  | _ => none

/-! ### Parts -/

/-- The fields by which records of a class are compared; a token's contract is not among them. -/
def comparedFields? : ClassRef → Option (List String)
  | .known "Cancelled" => none
  | .known name => shownFields name
  | .made _ => none

/-- Whether two lists are equal item by item. -/
def sameItems (p : Performer) : List Value → List Value → Act Bool
  | [], [] => return true
  | a :: as, b :: bs => do if ← p.equal a b then sameItems p as bs else return false
  | _, _ => return false

/-- The key among others that a key is equal to, or the key itself. Keys are compared if their hashes
agree and a script may have a say in it. -/
def settledKey (p : Performer) (keys : List DictKey) (k : DictKey) : Act DictKey := do
  if !k.key.isPeculiar && !keys.any (·.key.isPeculiar) then return k
  let h := k.key.hash
  let equal ← (keys.filter (·.key.hash == h)).findM? fun other => do
    if other.key == k.key then return true else p.equal other.shown k.shown
  return equal.getD k

/-- Whether two dictionaries bind the same names to equal values. -/
def sameEntries (p : Performer) (a b : Dict) : Act Bool := do
  if a.size != b.size then return false
  a.pairs.allM fun e => do
    match b.get? (← settledKey p b.names e.1) with
    | some v => p.equal e.2 v
    | none => return false

/-- Compares two lists by the first pair of items that differ. -/
def compareItems (p : Performer) (c : Comparison) : List Value → List Value → Act Value
  | a :: as, b :: bs => do
    if ← p.equal a b then compareItems p c as bs
    else
      match c with
      | .eq => return .bool false
      | .ne => return .bool true
      | c => p.compare c a b
  | as, bs => return .bool (c.holdsFor (Ord.compare as.length bs.length))

/-- The parts of a recorded call that something with so many items describes: a name if it has one,
positional and named arguments. What is left out is empty. -/
def callShape? (w : World) (noArgs noNamed : Value) :
    List Value → Option (Value × Value × Value)
  | [] => some (.text "", noArgs, noNamed)
  | [.text name] => some (.text name, noArgs, noNamed)
  | [a] =>
    if isTuple a then some (.text "", a, noNamed) else some (.text "", noArgs, a)
  | [.text name, b] =>
    if isTuple b then some (.text name, b, noNamed) else some (.text name, noArgs, b)
  | [a, b] => some (.text "", a, b)
  | [name, args, named] => some (name, args, named)
  | _ => none
where
  /-- Whether a value is a tuple. -/
  isTuple (v : Value) : Bool := World.belongsTo "tuple" (w.classOf v)

/-- The items of whatever has a length; there is nothing if a value has none. -/
def measuredItems? (p : Performer) (v : Value) : Act (Option (List Value)) := do
  let w ← get
  match v, World.sequenceItems? (w.object? v) with
  | .text s, _ => return some (s.toList.map fun c => .text c.toString)
  | _, some items => return some items
  | _, none =>
    match w.object? v with
    | some (.dict entries) => return some (entries.names.map (·.shown))
    | some (.set _ items) => return some (items.items.map (·.shown))
    | some (.view ..) | some (.bytes _) | some (.instance (.known "ComposedEnvironment")) =>
      return some ((← get).tupleItems (← p.tupleOf v))
    | _ => return none

/-- Whether a recorded call is equal to something that describes one; a call without a name fits
every name. There is no answer for what has no length. -/
def sameCall (p : Performer) (a b : Value) (items : List Value) : Act (Option Bool) := do
  match ← measuredItems? p b with
  | none => return none
  | some other =>
    let w ← get
    let parent (v : Value) : Value := (w.ownOf? v "_mock_parent").getD .none
    if parent a != .none && parent b != .none then
      if !(← p.equal (parent a) (parent b)) then return some false
    let (name, args, named) := callParts items
    let noArgs ← newTuple []
    let noNamed ← newNamedDict []
    match callShape? w noArgs noNamed other with
    | none => return some false
    | some (otherName, otherArgs, otherNamed) =>
      if name != .text "" then
        if !(← p.equal otherName name) then return some false
      if ← p.equal otherArgs args then return some (← p.equal otherNamed named)
      else return some false

/-! ### Comparing by the class of one side -/

/-- Compares a record with another one of exactly the same class. -/
def compareRecords (p : Performer) (c : Comparison) (a b : Value) (fields : List String) :
    Act (Option Value) := do
  if (← p.read b "__class__") != (← p.read a "__class__") then return none
  let mine ← fields.mapM (p.read a)
  let others ← fields.mapM (p.read b)
  match c with
  | .eq => return some (.bool (← sameItems p mine others))
  | .ne => return some (.bool (!(← sameItems p mine others)))
  | c => return some (← compareItems p c mine others)

/-- The items of what is compared as a set: their keys, and the values that belong to them. -/
def setEntries? (w : World) (v : Value) : Option (Aspect × Dict) :=
  match w.object? v with
  | some (.set _ items) => some (.keys, ⟨items.items.map fun k => (k, .none)⟩)
  | some (.view aspect true mapping) =>
    match aspect, w.object? mapping with
    | .values, _ => none
    | aspect, some (.dict entries) => some (aspect, entries)
    | _, _ => none
  | _ => none

/-- Whether a value is compared as a set. -/
def isSetLike (w : World) (v : Value) : Bool :=
  match w.object? v with
  | some (.set ..) => true
  | some (.view aspect ..) => aspect != .values
  | _ => false

/-- Whether the entries of one set are all among those of another. -/
def entriesWithin (p : Performer) (aspect : Aspect) (a b : Dict) : Act Bool :=
  a.pairs.allM fun e => do
    match b.get? (← settledKey p b.names e.1) with
    | some v => if aspect = .items then p.equal e.2 v else return true
    | none => return false

/-- Compares two collections by their sizes and, if these allow for it, by whether the first is
within the second or the second within the first. -/
def compareByParts (c : Comparison) (m n : Int) (within holding : Act Bool) :
    Act (Option Value) := do
  match c with
  | .eq => return some (.bool (← if m = n then within else pure false))
  | .ne => return some (.bool (!(← if m = n then within else pure false)))
  | .le => return some (.bool (← if m ≤ n then within else pure false))
  | .lt => return some (.bool (← if m < n then within else pure false))
  | .ge => return some (.bool (← if n ≤ m then holding else pure false))
  | .gt => return some (.bool (← if n < m then holding else pure false))

/-- Compares two sets by which of them holds the items of the other. -/
def compareSets (p : Performer) (c : Comparison) (aspect : Aspect) (a b : Dict) :
    Act (Option Value) := do
  compareByParts c a.size b.size (entriesWithin p aspect a b) (entriesWithin p aspect b a)

/-- Compares two views as sets whose items have to be gone through. -/
def compareViews (p : Performer) (c : Comparison) (a b : Value) : Act (Option Value) := do
  let length (v : Value) : Act Int := do
    match ← p.method v "__len__" [] [] with
    | .int n => return n
    | _ => return 0
  let within (a b : Value) : Act Bool := do
    let items ← p.tupleOf a
    (← get).tupleItems items |>.allM fun item => do
      p.truth (← p.method b "__contains__" [item] [])
  compareByParts c (← length a) (← length b) (within a b) (within b a)

/-- What a class compares by identity, and leaves to the other side otherwise. -/
def compareIdentity (c : Comparison) (a b : Value) : Option Value :=
  match c with
  | .eq => if a == b then some (.bool true) else none
  | .ne => if a == b then some (.bool false) else none
  | _ => none

/-- Compares by a yes or no that only tells whether two values are equal. -/
def compareEqual (c : Comparison) (x : Act Bool) : Act (Option Value) := do
  match c with
  | .eq => return some (.bool (← x))
  | .ne => return some (.bool (!(← x)))
  | _ => return none

/-- What the class of a value makes of a comparison with another value; there is nothing if it does
not know that one. -/
def compareNative (p : Performer) (c : Comparison) (a b : Value) : Act (Option Value) := do
  let w ← get
  let identity := compareIdentity c a b
  match a, b with
  | .text s, .text t => return some (.bool (c.holdsFor (Ord.compare s t)))
  | .text _, _ => return none
  | _, _ =>
    match World.number? a, World.number? b with
    | some m, some n => return some (.bool (c.holdsFor (Ord.compare m n)))
    | some _, none => return none
    | none, _ =>
      match w.object? a, w.object? b with
      | some x, some y =>
        match World.listItems? (some x), World.listItems? (some y), x, y with
        | some xs, some ys, _, _ => sequences xs.toList ys.toList
        | some _, none, _, _ => return none
        | _, _, .call xs, y =>
          match c, World.sequenceItems? (some y) with
          | .eq, _ => return (← sameCall p a b xs).map .bool
          | .ne, _ => return (← sameCall p a b xs).map fun r => .bool !r
          | _, some ys =>
            if World.belongsTo "tuple" (w.classOf b) then sequences xs ys else return none
          | _, none => return none
        | _, _, .tuple xs, .tuple ys | _, _, .tuple xs, .call ys => sequences xs ys
        | _, _, .tuple _, _ => return none
        | _, _, .dict d, .dict e => compareEqual c (sameEntries p d e)
        | _, _, .dict _, _ => return none
        | _, _, .bytes s, .bytes t => return some (.bool (c.holdsFor (Ord.compare s t)))
        | _, _, .bound s f, .bound t g =>
          compareEqual c (if s == t then p.equal f g else return false)
        | _, _, .instance (.known "SimpleNamespace"), .instance (.known "SimpleNamespace") =>
          let d := Bindings.ofPairs (textPairs (w.own a))
          compareEqual c (sameEntries p d (Bindings.ofPairs (textPairs (w.own b))))
        | _, _, .classView cls, _ => some <$> p.compare c (← shownMapping cls) b
        | _, _, .instance cls, _ =>
          match comparedFields? cls with
          | some fields => compareRecords p c a b fields
          | none => return identity
        | _, _, _, _ =>
          if isSetLike w a then
            if !knowsAsSet x y then return none
            match setEntries? w a, setEntries? w b with
            | some (s, d), some (t, e) =>
              if s = t then compareSets p c s d e else compareViews p c a b
            | _, _ => compareViews p c a b
          else return identity
      | some (.call xs), none =>
        match c with
        | .eq => return (← sameCall p a b xs).map .bool
        | .ne => return (← sameCall p a b xs).map fun r => .bool !r
        | _ => return none
      | some (.classView cls), none => some <$> p.compare c (← shownMapping cls) b
      | some (.instance cls), none =>
        match comparedFields? cls with
        | some fields => compareRecords p c a b fields
        | none => return identity
      | _, _ => return identity
where
  /-- Whether the class of one set knows another value as one: sets only know each other, and views
  of dictionaries do not know views of other mappings. -/
  knowsAsSet : Obj → Obj → Bool
    | .set .., .set .. => true
    | .set .., _ => false
    | .view .., .set .. => true
    | .view _ ofDict _, .view aspect ofOtherDict _ => aspect != .values && (ofOtherDict || !ofDict)
    | _, _ => false
  /-- Compares two sequences. -/
  sequences (xs ys : List Value) : Act (Option Value) := do
    match c with
    | .eq =>
      if xs.length != ys.length then return some (.bool false)
      return some (.bool (← sameItems p xs ys))
    | .ne =>
      if xs.length != ys.length then return some (.bool true)
      return some (.bool (!(← sameItems p xs ys)))
    | c => return some (← compareItems p c xs ys)

/-- Whether a value is what an operator gives which does not know the other side. -/
def isNotImplemented (v : Value) : Act Bool := do
  return (← get).isExactly v "NotImplementedType"

/-- What one side makes of a comparison; what scripts put in its place comes first. -/
def compareBy (p : Performer) (c : Comparison) (a b : Value) : Act (Option Value) := do
  let known (v : Value) : Act (Option Value) := do
    if ← isNotImplemented v then return none else return some v
  match ← overridden? p a c.method [b] with
  | some v => known v
  | none =>
    if c = .ne then
      match ← overridden? p a "__eq__" [b] with
      | some v =>
        match ← known v with
        | some v => return some (.bool (!(← p.truth v)))
        | none => return none
      | none => compareNative p c a b
    else compareNative p c a b

/-- Whether the class of one value is a special case of the class of another one. -/
def isMoreSpecial (w : World) (b a : Value) : Bool :=
  match w.classOf b, w.classOf a with
  | .known s, .known t => s != t && isSubclass s t
  | .made _, .known "object" => true
  | _, _ => false

/-- What comparing two values gives. -/
def compareValues (p : Performer) (c : Comparison) (a b : Value) : Act Value := do
  let w ← get
  let special := isMoreSpecial w b a
  let mine := compareBy p c a b
  let theirs := compareBy p c.swapped b a
  let attempts := if special then [theirs, mine] else [mine, theirs]
  match ← attempts.findSomeM? id with
  | some v => return v
  | none =>
    match c with
    | .eq => return .bool (a == b)
    | .ne => return .bool (a != b)
    | c =>
      complain .type ("'" ++ c.sign ++ "' not supported between instances of '" ++
        w.typeName a ++ "' and '" ++ w.typeName b ++ "'")

/-- Whether a value is less than another. -/
def lessThan (p : Performer) (a b : Value) : Act Bool := do p.truth (← p.compare .lt a b)

/-! ### Keys -/

/-- The error for a value that cannot serve as a key. -/
def unhashable {α : Type} (v : Value) : Act α := do
  complain .type ("unhashable type: '" ++ (← get).typeName v ++ "'")

/-- What a value is compared by as a key, looking into objects to a given depth. -/
def keyTo (p : Performer) : Nat → Value → Act Key
  | _, .none => return .none
  | _, .bool b => return .int (if b then 1 else 0)
  | _, .int i => return .int i
  | _, .text s => return .text s
  | 0, .object r => return .object r
  | depth + 1, .object r => do
    let v := Value.object r
    let w ← get
    match ← ownHash v with
    | some h => return .chosen h r
    | none =>
      match w.object? v, w.classOf v with
      | some (.tuple items), _ => return .tuple (← items.mapM (keyTo p depth))
      | some (.bytes items), _ => return .bytes items
      | some (.set true items), _ => return Key.ofItems (items.items.map (·.key))
      | some (.bound (.object self) (.object f)), _ => return .method self f
      | _, .known name =>
        if (definingClass? name "__hash__").any fun d => d.2 = .constant then unhashable v
        else
          match hashedFields name with
          | some fields => do
            let keys ← fields.mapM fun key => do keyTo p depth (← p.read v key)
            return .record name keys
          | none => return .object r
      | _, .made _ => return .object r
where
  /-- The fields that make up the key of a frozen record. -/
  hashedFields : String → Option (List String)
    | "Token" | "SubToken" => some ["name"]
    | "Runtime" => some ["defaults"]
    | "ServiceProgram" => some ["services", "factory", "args", "kwargs"]
    | _ => none
  /-- Asks what scripts put in the place of the hash of a value; it has to be a number. -/
  ownHash (v : Value) : Act (Option UInt64) := do
    match (← get).override? v "__hash__" with
    | some .none => unhashable v
    | _ =>
      match ← overridden? p v "__hash__" [] with
      | some h =>
        match World.number? h with
        | some n => return some (Key.ofChosen n)
        | none => complain .type "__hash__ method should return an integer"
      | none => return none

/-- What a value is compared by as a key. -/
def keyOf (p : Performer) (v : Value) : Act Key := keyTo p depthLimit v

/-- The key of a value. -/
def dictKey (p : Performer) (v : Value) : Act DictKey := do
  return ⟨← keyOf p v, v, ← nextStamp⟩

/-- The key that a value has among the keys of a dictionary. -/
def keyAmong (p : Performer) (entries : Dict) (v : Value) : Act DictKey := do
  settledKey p entries.names (← dictKey p v)

/-- Binds a key of the dictionary at a reference; an equal key that is there stays there. -/
def bindEntry (p : Performer) (r : Nat) (key : DictKey) (v : Value) : Act Unit := do
  match ← look (.object r) with
  | some (.dict entries) => putEntry r (← settledKey p entries.names key) v
  | _ => pure ()

/-- Binds all keys of another dictionary; one without keys takes them over as they are. -/
def bindAll (p : Performer) (r : Nat) (others : Dict) : Act Unit := do
  match ← look (.object r) with
  | some (.dict entries) =>
    others.pairs.forM fun e =>
      if entries.pairs.isEmpty then putEntry r e.1 e.2 else bindEntry p r e.1 e.2
  | _ => pure ()

/-- A new dictionary of keys and values. -/
def newDictFrom (p : Performer) (pairs : List (DictKey × Value)) : Act Value := do
  let target ← newDictOf .empty
  match target with
  | .object r => pairs.forM fun e => bindEntry p r e.1 e.2
  | _ => pure ()
  return target

/-- A new dictionary. -/
def newDict (p : Performer) (entries : List (Value × Value)) : Act Value := do
  let target ← newDictOf .empty
  match target with
  | .object r => entries.forM fun e => do bindEntry p r (← dictKey p e.1) e.2
  | _ => pure ()
  return target

end Provision.Script
