import Provision.Script.Method.Format
import Provision.Script.Method.Parts
import Provision.Text.Blank
import Provision.Text.Case
import Provision.Text.Whole

/-!
Methods of bytes.

Bytes are gone about as characters of the same codes (`byteChars`). Only those of ASCII count as
letters, digits or blanks here, and an argument has to be bytes itself; where one byte is looked
for, its number will do (`partOfBytes`).
-/

namespace Provision.Script

/-! ### Arguments -/

/-- Bytes as characters of the same codes. -/
def byteChars (items : List Nat) : List Char := items.map Char.ofNat

/-- Characters as bytes of the same codes. -/
def newBytes (cs : List Char) : Act Value := alloc (.bytes (cs.map Char.toNat))

/-- The characters of bytes that a method is given. -/
def bytesGiven (v : Value) : Act (List Char) := do
  match ← look v with
  | some (.bytes items) => return byteChars items
  | _ => complain .type ("a bytes-like object is required, not '" ++ (← get).typeName v ++ "'")

/-- What is looked for among bytes: others, or the one of a number. -/
def partOfBytes (p : Performer) (v : Value) : Act (List Char) := do
  match ← look v with
  | some (.bytes items) => return byteChars items
  | _ =>
    match ← indexOf? p v with
    | some n =>
      if n < 0 || n > 255 then complain .value "byte must be in range(0, 256)"
      return [Char.ofNat n.toNat]
    | none =>
      complain .type ("argument should be integer or bytes-like object, not '" ++
        (← get).typeName v ++ "'")

/-- The byte that a method fills up with. -/
def fillByte (name : String) (v : Value) : Act Char := do
  match ← look v with
  | some (.bytes [n]) => return Char.ofNat n
  | _ =>
    let given := (← get).typeName v
    complain .type (name ++ "() argument 2 must be a byte string of length 1, not " ++
      if v = .none then "None" else given)

/-- The bytes that a value is made into. -/
def bytesFrom (p : Performer) (v : Value) : Act (List Nat) := do
  let given := (← get).typeName v
  match ← overridden? p v "__bytes__" [], ← look v with
  | some a, _ =>
    match ← look a with
    | some (.bytes items) => return items
    | _ => complain .type ("__bytes__ returned non-bytes (type " ++ (← get).typeName a ++ ")")
  | none, some (.bytes items) => return items
  | none, _ =>
    let fails : Act Value := complain .type ("cannot convert '" ++ given ++ "' object to bytes")
    let it ← match v, ← Act.attempt (iteratorOf p v) with
      | .text _, _ => fails
      | _, .ok it => pure it
      | _, .error e => if ← isKind e "TypeError" then fails else throw e
    mapOf p it fun item => do
      let n ← wholeOf p item
      if n < 0 || n > 255 then complain .value "bytes must be in range(0, 256)"
      return n.toNat

/-! ### Looking for parts -/

/-- Whether bytes begin or end with others, or with one of several. -/
def bytesHaveEnd (p : Performer) (cs : List Char) (name : String) (args : List Value) :
    Act Value := do
  let (start, stop) ← boundsOf p cs.length (args.drop 1)
  let fits (v : Value) : Act Bool := do
    return Text.hasEndBetween (name = "endswith") start stop cs (← bytesGiven v)
  let wanted := args.head?.getD .none
  match ← look wanted with
  | some (.tuple items) | some (.call items) => return .bool (← items.anyM fits)
  | some (.bytes _) => return .bool (← fits wanted)
  | _ =>
    complain .type (name ++ " first arg must be bytes or a tuple of bytes, not " ++
      (← get).typeName wanted)

/-! ### Other forms -/

/-- Hexadecimal digits with a mark between groups of so many bytes, counted from the end, or from
the beginning if the number is negative. -/
def groupedHex (items : List Nat) (mark : String) (group : Int) : String :=
  let size := group.natAbs
  let digits := items.map hexPair
  if size = 0 then String.join digits
  else
    let offset := if group < 0 then 0 else items.length % size
    String.join (digits.zipIdx.map fun e =>
      if e.2 != 0 && (e.2 + size - offset) % size = 0 then mark ++ e.1 else e.1)

/-- The bytes that hexadecimal digits stand for, two each, or the position where there is no digit.
There may be blanks between bytes. -/
def bytesOfHex : Nat → List Char → Except Nat (List Nat)
  | _, [] => .ok []
  | i, c :: rest =>
    if Text.isBlankByte c then bytesOfHex (i + 1) rest
    else
      let digit? (c : Char) : Option Nat := (Text.digitValue? c).filter (· < 16)
      match digit? c, rest with
      | none, _ => .error i
      | some _, [] => .error (i + 1)
      | some a, d :: rest =>
        match digit? d with
        | some b => (bytesOfHex (i + 2) rest).map ((16 * a + b) :: ·)
        | none => .error (i + 1)

/-- Bytes in hexadecimal digits. -/
def hexOfBytes (p : Performer) (items : List Nat) (args : List Value) (named : Named) :
    Act Value := do
  match ← methodArguments "hex" [optional "sep" (.text ""), optional "bytes_per_sep" (.int 1)] args
    named with
  | [mark, group] =>
    if args.isEmpty && (named.lookup "sep").isNone then return .text (groupedHex items "" 0)
    let group ← wholeOf p group
    if (← itemCount p mark) != 1 then complain .value "sep must be length 1."
    let mark ← match mark, ← look mark with
      | .text s, _ => pure s
      | _, some (.bytes items) => pure (String.ofList (byteChars items))
      | _, _ => complain .type "sep must be str or bytes."
    if mark.toList.any fun c => c.toNat ≥ 128 then complain .value "sep must be ASCII."
    return .text (groupedHex items mark group)
  | _ => return .none

/-- The text of bytes. -/
def decodeBytes (items : List Nat) (name handling : String) : Act Value := do
  match items, Text.Encoding.ofName? name with
  | [], _ => return .text ""
  | _, none => complain .lookup ("unknown encoding: " ++ name)
  | items, some e =>
    match e.decode handling items with
    | .ok s => return .text s
    | .error fault =>
      if handling != "strict" then
        complain .lookup ("unknown error handler name '" ++ handling ++ "'")
      raise .unicodeDecode [.text e.name, ← alloc (.bytes items), .int fault.start,
        .int fault.stop, .text fault.reason]

/-- Bytes with others taken out, and the rest exchanged by a table. -/
def translateBytes (items : List Nat) (args : List Value) (named : Named) : Act Value := do
  match ← methodArguments "translate" [required "table", optional "delete" .none] args named with
  | [table, dropped] =>
    let table ← match table with
      | .none => pure none
      | v => do
        let codes ← bytesGiven v
        if codes.length != 256 then
          complain .value "translation table must be 256 characters long"
        pure (some codes)
    let dropped ← match dropped with
      | .none => if args.length > 1 then bytesGiven .none else pure []
      | v => bytesGiven v
    let kept := (byteChars items).filter (!dropped.contains ·)
    newBytes <| match table with
      | some codes => kept.map fun c => codes.getD c.toNat c
      | none => kept
  | _ => return .none

/-- The bytes that a value gives, with others between each two of them. -/
def joinBytes (p : Performer) (cs : List Char) (v : Value) : Act Value := do
  let parts ← (← joinedItems p v).zipIdx.mapM fun e => do
    match ← look e.1 with
    | some (.bytes items) => return byteChars items
    | _ =>
      complain .type ("sequence item " ++ toString e.2 ++ ": expected a bytes-like object, " ++
        (← get).typeName e.1 ++ " found")
  newBytes (cs.intercalate parts)

/-- A table that exchanges some bytes for others. -/
def byteTable (source target : Value) : Act Value := do
  let a ← bytesGiven source
  let b ← bytesGiven target
  if a.length != b.length then
    complain .value "maketrans arguments must have same length"
  let pairs := (a.zip b).reverse
  newBytes ((List.range 256).map fun n => (pairs.lookup (Char.ofNat n)).getD (Char.ofNat n))

/-! ### The methods -/

/-- Bytes changed in the case of their letters. -/
def recasedBytes? (cs : List Char) (name : String) : Option (List Char) :=
  match name with
  | "upper" => some (cs.map Char.toUpper)
  | "lower" => some (cs.map Char.toLower)
  | "swapcase" => some (cs.map fun c => if c.isUpper then c.toLower else c.toUpper)
  | "capitalize" =>
    some <| match cs with
      | c :: rest => c.toUpper :: rest.map Char.toLower
      | [] => []
  | "title" =>
    some (((' ' :: cs).zip cs).map fun e => if e.1.isAlpha then e.2.toLower else e.2.toUpper)
  | _ => none

/-- What bytes are asked about their characters. -/
def askedOfBytes? (cs : List Char) (name : String) : Option Bool :=
  let all (holds : Char → Bool) : Option Bool := some (!cs.isEmpty && cs.all holds)
  match name with
  | "isascii" => some (cs.all fun c => c.toNat < 128)
  | "isalpha" => all Char.isAlpha
  | "isalnum" => all Char.isAlphanum
  | "isdigit" => all Char.isDigit
  | "isspace" => all Text.isBlankByte
  | "islower" => some (cs.any Char.isLower && !cs.any Char.isUpper)
  | "isupper" => some (cs.any Char.isUpper && !cs.any Char.isLower)
  | "istitle" => some (Text.isTitled Char.isUpper Char.isLower cs)
  | _ => none

/-- The methods of bytes. -/
def bytesMember (p : Performer) (items : List Nat) (name : String) (args : List Value)
    (named : Named) : Act Value := do
  let cs := byteChars items
  match recasedBytes? cs name, askedOfBytes? cs name, name, args with
  | some changed, _, _, [] => newBytes changed
  | _, some b, _, [] => return .bool b
  | _, _, "decode", _ =>
    let (code, handling) ←
      codecGiven name (← givenToMethod name codecParameters args named)
    decodeBytes items code handling
  | _, _, "hex", _ => hexOfBytes p items args named
  | _, _, "translate", _ => translateBytes items args named
  | _, _, "startswith", _ :: _ | _, _, "endswith", _ :: _ => bytesHaveEnd p cs name args
  | _, _, "find", v :: bounds | _, _, "rfind", v :: bounds | _, _, "index", v :: bounds
  | _, _, "rindex", v :: bounds =>
    let (start, stop) ← boundsOf p cs.length bounds
    match Text.findBetween (name.startsWith "r") start stop cs (← partOfBytes p v),
      name.endsWith "find" with
    | some i, _ => return .int i
    | none, true => return .int (-1)
    | none, false => complain .value "subsection not found"
  | _, _, "count", v :: bounds =>
    let (start, stop) ← boundsOf p cs.length bounds
    return .int (Text.countBetween start stop cs (← partOfBytes p v))
  | _, _, "strip", _ | _, _, "lstrip", _ | _, _, "rstrip", _ =>
    let drops ← match args with
      | [] | [.none] => pure Text.isBlankByte
      | v :: _ => do pure (← bytesGiven v).contains
    newBytes (Text.trimmed (name != "rstrip") (name != "lstrip") drops cs)
  | _, _, "split", _ | _, _, "rsplit", _ =>
    match ← methodArguments name [optional "sep" .none, optional "maxsplit" (.int (-1))] args named with
    | [separator, most] =>
      let cuts ← cutsOf p most
      let separator ← match separator with
        | .none => pure none
        | v => do pure (some (← bytesGiven v))
      newList (← (← splitParts (name = "rsplit") Text.isBlankByte separator cuts cs).mapM newBytes)
    | _ => return .none
  | _, _, "splitlines", _ =>
    match ← methodArguments name [optional "keepends" (.bool false)] args named with
    | [keep] =>
      newList (← (Text.linesOf Text.byteEndsLine ((← wholeOf p keep) != 0) (cs.length + 1)
        cs).mapM newBytes)
    | _ => return .none
  | _, _, "partition", [v] | _, _, "rpartition", [v] =>
    newTuple (← (← partitioned (name = "rpartition") cs (← bytesGiven v)).mapM newBytes)
  | _, _, "replace", a :: b :: rest =>
    let part ← bytesGiven a
    let other ← bytesGiven b
    let cuts ← (rest.head?.map (cutsOf p)).getD (pure none)
    newBytes (Text.replaceParts part other cuts cs)
  | _, _, "removeprefix", [v] => newBytes (Text.withoutStart (← bytesGiven v) cs)
  | _, _, "removesuffix", [v] => newBytes (Text.withoutEnd (← bytesGiven v) cs)
  | _, _, "join", [v] => joinBytes p cs v
  | _, _, "center", v :: rest | _, _, "ljust", v :: rest | _, _, "rjust", v :: rest =>
    let width ← widthOf p v
    let fill ← (rest.head?.map (fillByte name)).getD (pure ' ')
    newBytes (justified name width fill cs)
  | _, _, "zfill", [v] => newBytes (Text.zeroFilled (← widthOf p v) cs)
  | _, _, "expandtabs", _ =>
    match ← methodArguments name [optional "tabsize" (.int 8)] args named with
    | [width] => newBytes (Text.expandTabs (← wholeOf p width).toNat 0 cs)
    | _ => return .none
  | _, _, "__mod__", [v] => newBytes (← fillConversions p true (String.ofList cs) v).toList
  | _, _, "__rmod__", [v] =>
    match ← look v with
    | some (.bytes template) =>
      let filled ← fillConversions p true (String.ofList (byteChars template)) (← newBytes cs)
      newBytes filled.toList
    | _ => notImplemented
  | _, _, "__mul__", [n] | _, _, "__rmul__", [n] => newBytes (← repeated p cs n)
  | _, _, "__bytes__", [] => newBytes cs
  | _, _, "__getnewargs__", [] => newTuple [← newBytes cs]
  | _, _, _, _ => wrongCount "bytes" name args

end Provision.Script
