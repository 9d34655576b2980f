import Provision.Script.Method.Set

/-!
Methods of dictionaries, of views of mappings, and of what shows a mapping without letting it be
changed.
-/

namespace Provision.Script

/-- Whether a value is a dictionary. -/
def isDict (w : World) (v : Value) : Bool :=
  match w.object? v with
  | some (.dict _) => true
  | _ => false

/-- The methods of dictionaries. -/
def dictMember (p : Performer) (r : Nat) (entries : Dict) (name : String) (args : List Value)
    (named : Named) : Act Value := do
  let self := Value.object r
  match name, args with
  | "get", key :: rest =>
    return (entries.get? (← keyAmong p entries key)).getD (rest.head?.getD .none)
  | "keys", [] => alloc (.view .keys true self)
  | "values", [] => alloc (.view .values true self)
  | "items", [] => alloc (.view .items true self)
  | "copy", [] => newDictOf entries
  | "clear", [] => put r (.dict .empty); return .none
  | "pop", key :: rest =>
    let found ← if entries.pairs.isEmpty then pure none else do pure (some (← keyAmong p entries key))
    match found.bind fun k => (entries.get? k).map fun v => (k, v), rest with
    | some (k, v), _ => dropEntry r k; return v
    | none, otherwise :: _ => return otherwise
    | none, [] => raise .key [key]
  | "popitem", [] =>
    match entries.pairs.getLast? with
    | some e =>
      put r (.dict (entries.erase e.1))
      newTuple [e.1.shown, e.2]
    | none => raise .key [.text "popitem(): dictionary is empty"]
  | "setdefault", key :: rest =>
    let k ← keyAmong p entries key
    match entries.get? k with
    | some v => return v
    | none =>
      let otherwise := rest.head?.getD .none
      putEntry r k otherwise
      return otherwise
  | "update", args =>
    args.forM fun v => bindEntriesOf p r v
    (textPairs named).forM fun e => putEntry r e.1 e.2
    return .none
  | "__reversed__", [] => newDictIterator r .keys true
  | "__getitem__", [key] => nativeItem p self key
  | "__contains__", [key] => return .bool (entries.contains (← keyAmong p entries key))
  | "__sizeof__", [] => return .int 64
  | "__or__", [other] =>
    if !isDict (← get) other then notImplemented else joined p self other
  | "__ror__", [other] =>
    if !isDict (← get) other then notImplemented else joined p other self
  | "__ior__", [other] =>
    bindEntriesOf p r other
    return self
  | _, _ => wrongCount "dict" name args
where
  /-- A new dictionary with the entries of two. -/
  joined (p : Performer) (a b : Value) : Act Value := do
    let target ← newDictOf .empty
    match target with
    | .object t =>
      bindEntriesOf p t a
      bindEntriesOf p t b
    | _ => pure ()
    return target

/-- A new dictionary with the items of a value as its keys. -/
def dictFromKeys (p : Performer) (keys otherwise : Value) : Act Value := do
  let keys ← itemsOf p keys
  newDict p (keys.map fun k => (k, otherwise))

/-- The methods of views. -/
def viewMember (p : Performer) (self : Value) (cls name : String) (args : List Value) :
    Act Value := do
  match name, args with
  | "__reversed__", [] => reverseIteratorOf p self
  | "isdisjoint", [other] => return .bool (!(← anyOf p other fun v => nativeHolds p self v))
  | "_hash", [] =>
    complain .type ("unhashable type: '" ++ (← get).typeName self ++ "'")
  | name, [other] =>
    if isViewOperator name then combineView p name self other else wrongCount cls name args
  | _, _ => wrongCount cls name args

/-- Joins two mappings, either of which may be shown by something else. -/
def joinShown (p : Performer) (a b : Value) : Act Value := do
  let plain (v : Value) : Act Value := do
    match ← look v with
    | some (.classView cls) => shownMapping cls
    | _ => return v
  let a ← plain a
  let b ← plain b
  let w ← get
  let refuse : Act Value :=
    complain .type ("unsupported operand type(s) for |: '" ++ w.typeName a ++ "' and '" ++
      w.typeName b ++ "'")
  let attempt (v : Value) (name : String) (other : Value) : Act (Option Value) := do
    match ← readable? p v name with
    | none => return none
    | some f =>
      let result ← p.call f [other] []
      if ← isNotImplemented result then return none else return some result
  match ← [attempt a "__or__" b, attempt b "__ror__" a].findSomeM? id with
  | some v => return v
  | none => refuse

/-- The methods of what shows a mapping: those of the mapping, or of the attributes of a class. -/
def classViewMember (p : Performer) (self shown : Value) (name : String) (args : List Value) :
    Act Value := do
  match name, args with
  | "get", _ | "keys", _ | "values", _ | "items", _ | "copy", _ | "__reversed__", _ =>
    p.method (← shownMapping shown) name args []
  | "__or__", [other] => joinShown p self other
  | "__ror__", [other] => joinShown p other self
  | "__ior__", _ => complain .type "'|=' is not supported by mappingproxy; use '|' instead"
  | _, _ => generalMember p name self args

end Provision.Script
