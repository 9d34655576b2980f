import Provision.Script.Method.Format
import Provision.Script.Method.Parts
import Provision.Text.Blank
import Provision.Text.CaseMap
import Provision.Text.Letter

/-!
Methods of texts.
-/

namespace Provision.Script

/-- The characters of a text argument; what is said of any other one comes before the name of its
class. -/
def charactersOf (what : String) (v : Value) : Act (List Char) := do
  match v with
  | .text s => return s.toList
  | v => complain .type (what ++ (← get).typeName v)

/-- A text of characters as a value. -/
def textValue (cs : List Char) : Value := .text (String.ofList cs)

/-- What a text is asked about its characters: whether there are any, and all are of some kind. -/
def allOf (s : String) (holds : Char → Bool) : Value := .bool (s != "" && s.toList.all holds)

/-- Whether a text has characters of one case and none of the other. -/
def onlyCase (s : String) (wanted other : Char → Bool) : Value :=
  .bool (s.toList.any wanted && !s.toList.any fun c => other c || Text.isTitleLetter c)

/-- The parts of a text between separators, or between blanks. -/
def splitText (p : Performer) (s name : String) (args : List Value) (named : Named) :
    Act Value := do
  match ← methodArguments name [optional "sep" .none, optional "maxsplit" (.int (-1))] args named with
  | [separator, most] =>
    let cuts ← cutsOf p most
    let separator ← match separator with
      | .none => pure none
      | v => do pure (some (← charactersOf "must be str or None, not " v))
    let parts ← splitParts (name = "rsplit") Text.isBlank separator cuts s.toList
    newList (parts.map textValue)
  | _ => return .none

/-- Whether a text begins or ends with a part, or with one of several. -/
def textHasEnd (p : Performer) (s name : String) (args : List Value) : Act Value := do
  let (start, stop) ← boundsOf p s.length (args.drop 1)
  let fits := Text.hasEndBetween (name = "endswith") start stop s.toList
  let wanted := args.head?.getD .none
  match wanted, World.sequenceItems? (← look wanted), (← get).isInstance wanted "tuple" with
  | .text t, _, _ => return .bool (fits t.toList)
  | _, some items, true =>
    return .bool (← items.anyM fun v => do
      return fits (← charactersOf ("tuple for " ++ name ++ " must only contain str, not ") v))
  | v, _, _ =>
    complain .type (name ++ " first arg must be str or a tuple of str, not " ++
      (← get).typeName v)

/-- The character that a method fills up with. -/
def fillCharacter (v : Value) : Act Char := do
  match v with
  | .text t =>
    match t.toList with
    | [c] => return c
    | _ => complain .type "The fill character must be exactly one character long"
  | v =>
    complain .type ("The fill character must be a unicode character, not " ++ (← get).typeName v)

/-- The texts that a value gives, with a text between each two of them. -/
def joinTexts (p : Performer) (s : String) (v : Value) : Act Value := do
  let parts ← (← joinedItems p v).zipIdx.mapM fun e => do
    match e.1 with
    | .text t => return t
    | a =>
      complain .type ("sequence item " ++ toString e.2 ++ ": expected str instance, " ++
        (← get).typeName a ++ " found")
  return .text (s.intercalate parts)

/-- What becomes of the characters of a text by a table. -/
def translateText (p : Performer) (s : String) (table : Value) : Act Value := do
  let parts ← s.toList.mapM fun c => do
    match ← Act.attempt (p.item table (.int c.toNat)) with
    | .error e => if ← isKind e "LookupError" then return c.toString else throw e
    | .ok .none => return ""
    | .ok (.text t) => return t
    | .ok v =>
      match World.number? v with
      | some n =>
        if n < 0 || n ≥ 0x110000 then
          complain .value "character mapping must be in range(0x110000)"
        return (Char.ofNat n.toNat).toString
      | none => complain .type "character mapping must return integer, None or str"
  return .text (String.join parts)

/-- The bytes of a text. -/
def encodeText (s name handling : String) : Act Value := do
  match Text.Encoding.ofName? name with
  | none => complain .lookup ("unknown encoding: " ++ name)
  | some e =>
    match e.encode handling s with
    | .ok bytes => alloc (.bytes bytes)
    | .error place =>
      if handling != "strict" then
        complain .lookup ("unknown error handler name '" ++ handling ++ "'")
      raise .unicodeEncode [.text e.name, .text s, .int place.start, .int place.stop,
        .text ("ordinal not in range(" ++ toString e.limit ++ ")")]

/-- A table for the characters of a text: from a dictionary, or from texts that belong together. -/
def translationTable (p : Performer) (args : List Value) : Act Value := do
  match args with
  | [v] =>
    match ← look v with
    | some (.dict entries) =>
      newDict p (← entries.pairs.mapM fun e => do
        match e.1.shown with
        | .text t =>
          match t.toList with
          | [c] => return (.int c.toNat, e.2)
          | _ => complain .value "string keys in translate table must be of length 1"
        | .int n => return (.int n, e.2)
        | _ => complain .type "keys in translate table must be strings or integers")
    | _ =>
      complain .type "if you give only one argument to maketrans it must be a dict"
  | source :: target :: rest =>
    let a ← charactersOf "maketrans() argument 1 must be str, not " source
    let b ← charactersOf "maketrans() argument 2 must be str, not " target
    if a.length != b.length then
      complain .value "the first two maketrans arguments must have equal length"
    let dropped ← match rest with
      | v :: _ => charactersOf "maketrans() argument 3 must be str, not " v
      | [] => pure []
    newDict p ((a.zip b).map (fun e => (.int e.1.toNat, .int e.2.toNat)) ++
      dropped.map fun c => (.int c.toNat, .none))
  | [] => complain .type "maketrans expected at least 1 argument, got 0"

/-- The methods of texts that only ask about their characters, or only change them. -/
def plainTextMember? (s name : String) : Option Value :=
  match name with
  | "upper" => some (.text (Text.upperAll s))
  | "lower" => some (.text (Text.lowerAll s))
  | "title" => some (.text (Text.titleAll s))
  | "capitalize" => some (.text (Text.capitalize s))
  | "casefold" => some (.text (Text.foldAll s))
  | "swapcase" => some (.text (Text.swapCase s))
  | "isascii" => some (.bool (s.toList.all fun c => c.toNat < 128))
  | "islower" => some (onlyCase s Text.isSmall Text.isCapital)
  | "isupper" => some (onlyCase s Text.isCapital Text.isSmall)
  | "istitle" =>
    some (.bool (Text.isTitled (fun c => Text.isCapital c || Text.isTitleLetter c) Text.isSmall
      s.toList))
  | "isspace" => some (allOf s Text.isBlank)
  | "isdecimal" => some (allOf s Text.isDecimal)
  | "isdigit" => some (allOf s Text.isDigit)
  | "isnumeric" => some (allOf s Text.isNumeric)
  | "isalpha" => some (allOf s Text.isLetter)
  | "isalnum" => some (allOf s fun c => Text.isLetter c || Text.isNumeric c)
  | "isidentifier" => some (.bool (Text.isName s))
  | "isprintable" => some (.bool (s.toList.all Text.isPrintable))
  | _ => none

/-- The methods of texts. -/
def textMember (p : Performer) (s name : String) (args : List Value) (named : Named) :
    Act Value := do
  let cs := s.toList
  match plainTextMember? s name, name, args with
  | some v, _, [] => return v
  | _, "strip", args | _, "lstrip", args | _, "rstrip", args =>
    let drops ← match args with
      | [] | [.none] => pure Text.isBlank
      | [.text given] => pure given.toList.contains
      | [_] => complain .type (name ++ " arg must be None or str")
      | _ => wrongCount "str" name args
    return textValue (Text.trimmed (name != "rstrip") (name != "lstrip") drops cs)
  | _, "split", _ | _, "rsplit", _ => splitText p s name args named
  | _, "splitlines", _ =>
    match ← methodArguments name [optional "keepends" (.bool false)] args named with
    | [keep] =>
      newList ((Text.linesOf Text.endsLine ((← wholeOf p keep) != 0) (cs.length + 1) cs).map
        textValue)
    | _ => return .none
  | _, "partition", [v] | _, "rpartition", [v] =>
    let parts ← partitioned (name = "rpartition") cs (← charactersOf "must be str, not " v)
    newTuple (parts.map textValue)
  | _, "startswith", _ :: _ | _, "endswith", _ :: _ => textHasEnd p s name args
  | _, "find", v :: bounds | _, "rfind", v :: bounds | _, "index", v :: bounds
  | _, "rindex", v :: bounds =>
    let (start, stop) ← boundsOf p cs.length bounds
    let part ← charactersOf "must be str, not " v
    match Text.findBetween (name.startsWith "r") start stop cs part, name.endsWith "find" with
    | some i, _ => return .int i
    | none, true => return .int (-1)
    | none, false => complain .value "substring not found"
  | _, "count", v :: bounds =>
    let (start, stop) ← boundsOf p cs.length bounds
    return .int (Text.countBetween start stop cs (← charactersOf "must be str, not " v))
  | _, "replace", a :: b :: rest =>
    let part ← charactersOf "replace() argument 1 must be str, not " a
    let other ← charactersOf "replace() argument 2 must be str, not " b
    let cuts ← match rest with
      | v :: _ => cutsOf p v
      | [] => pure none
    return textValue (Text.replaceParts part other cuts cs)
  | _, "removeprefix", [v] =>
    let part ← charactersOf "removeprefix() argument must be str, not " v
    return textValue (Text.withoutStart part cs)
  | _, "removesuffix", [v] =>
    let part ← charactersOf "removesuffix() argument must be str, not " v
    return textValue (Text.withoutEnd part cs)
  | _, "join", [v] => joinTexts p s v
  | _, "center", v :: rest | _, "ljust", v :: rest | _, "rjust", v :: rest =>
    let width ← widthOf p v
    let fill ← (rest.head?.map fillCharacter).getD (pure ' ')
    return textValue (justified name width fill cs)
  | _, "zfill", [v] => return textValue (Text.zeroFilled (← widthOf p v) cs)
  | _, "expandtabs", _ =>
    match ← methodArguments name [optional "tabsize" (.int 8)] args named with
    | [width] => return textValue (Text.expandTabs (← wholeOf p width).toNat 0 cs)
    | _ => return .none
  | _, "translate", [table] => translateText p s table
  | _, "encode", _ =>
    let (code, handling) ←
      codecGiven name (← givenToMethod name codecParameters args named)
    encodeText s code handling
  | _, "format", args =>
    let named ← newNamedDict named
    return .text (← fillFields p (some args) named templateDepth s .undecided).1
  | _, "format_map", [mapping] =>
    return .text (← fillFields p none mapping templateDepth s .undecided).1
  | _, "__format__", [.text spec] => return .text (← nativeFormat p (.text s) spec)
  | _, "__mod__", [v] => return .text (← fillConversions p false s v)
  | _, "__rmod__", [v] =>
    match v with
    | .text t => return .text (← fillConversions p false t (.text s))
    | _ => notImplemented
  | _, "__mul__", [n] | _, "__rmul__", [n] =>
    return textValue (← repeated p cs n)
  | _, "__getnewargs__", [] => newTuple [.text s]
  | _, "__sizeof__", [] => return .int (49 + cs.length)
  | _, _, _ => wrongCount "str" name args

end Provision.Script
