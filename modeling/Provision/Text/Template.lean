import Provision.Text.Layout

/-!
Templates: texts with places that are filled in.

There are two kinds. In a template with braces (`fieldsOf`) a place names what it is filled with,
how that is written, and by which layout. In one with percent signs (`conversionsOf`) the places are
filled one after the other or by keys. A template that is malformed has good pieces up to where the
fault is, and ends with the words for it.
-/

namespace Provision.Text

/-! ### Braces -/

/-- A place in a template with braces. -/
structure Field where
  name : String
  conversion : Option Char
  layout : String
  /-- Whether the layout is a template itself. -/
  nested : Bool

/-- A piece of a template. -/
inductive Piece (α : Type) where
  | literal (s : String)
  | place (a : α)
  | malformed (why : String)

/-- The characters up to the end of the name in a place, the one that ends it, and the rest. -/
def fieldName : Nat → List Char → Except String (List Char × Option Char × List Char)
  | 0, cs => .ok ([], none, cs)
  | _, [] => .ok ([], none, [])
  | n + 1, c :: cs =>
    if c = '{' then .error "unexpected '\x7b' in field name"
    else if c = '}' || c = ':' || c = '!' then .ok ([], some c, cs)
    else if c = '[' then
      let inside := cs.takeWhile (· != ']')
      match fieldName n (cs.drop inside.length) with
      | .ok (name, e, rest) => .ok (c :: inside ++ name, e, rest)
      | .error why => .error why
    else
      match fieldName n cs with
      | .ok (name, e, rest) => .ok (c :: name, e, rest)
      | .error why => .error why

/-- The characters of a layout up to the brace that ends its place, at some depth of braces. -/
def fieldLayout : Nat → List Char → Except String (List Char × List Char)
  | _, [] => .error "unmatched '\x7b' in format spec"
  | depth, c :: cs =>
    let more (d : Nat) : Except String (List Char × List Char) :=
      (fieldLayout d cs).map fun r => (c :: r.1, r.2)
    if c = '{' then more (depth + 1)
    else if c = '}' then if depth = 0 then .ok ([], cs) else more (depth - 1)
    else more depth

/-- A place, from behind the brace that begins it. -/
def readField (cs : List Char) : Except String (Field × List Char) := do
  let (name, mark, rest) ← fieldName (cs.length + 1) cs
  let named (conversion : Option Char) (layout : List Char) : Field :=
    ⟨String.ofList name, conversion, String.ofList layout, layout.contains '{'⟩
  match mark, rest with
  | some '}', rest => return (named none [], rest)
  | some ':', rest =>
    let (layout, rest) ← fieldLayout 0 rest
    return (named none layout, rest)
  | some _, [] => .error "end of string while looking for conversion specifier"
  | some _, [_] => .error "unmatched '\x7b' in format spec"
  | some _, c :: d :: rest =>
    if d = '}' then return (named (some c) [], rest)
    else if d != ':' then .error "expected ':' after conversion specifier"
    else
      let (layout, rest) ← fieldLayout 0 rest
      return (named (some c) layout, rest)
  | none, _ => .error "expected '\x7d' before end of string"

/-- The pieces of a template with braces, found in at most so many steps. -/
def fieldPieces : Nat → List Char → List (Piece Field)
  | 0, _ => []
  | _, [] => []
  | n + 1, cs =>
    let text := cs.takeWhile fun c => c != '{' && c != '}'
    let before := if text.isEmpty then [] else [.literal (String.ofList text)]
    before ++ match cs.drop text.length with
      | [] => []
      | ['{'] => [.malformed "Single '\x7b' encountered in format string"]
      | '{' :: '{' :: rest => .literal "\x7b" :: fieldPieces n rest
      | '}' :: '}' :: rest => .literal "\x7d" :: fieldPieces n rest
      | '{' :: rest =>
        match readField rest with
        | .ok (field, rest) => .place field :: fieldPieces n rest
        | .error why => [.malformed why]
      | _ => [.malformed "Single '\x7d' encountered in format string"]

/-- The pieces of a template with braces. -/
def fieldsOf (s : String) : List (Piece Field) := fieldPieces (s.length + 1) s.toList

/-- A step on the way from an argument to what a place names. -/
inductive Accessor where
  | attribute (name : String)
  | item (key : String)
  | malformed (why : String)

/-- The steps behind the first part of a name, at most so many. -/
def accessors : Nat → List Char → List Accessor
  | 0, _ => []
  | _, [] => []
  | n + 1, '.' :: cs =>
    let name := cs.takeWhile fun c => c != '.' && c != '['
    if name.isEmpty then [.malformed "Empty attribute in format string"]
    else .attribute (String.ofList name) :: accessors n (cs.drop name.length)
  | n + 1, '[' :: cs =>
    let key := cs.takeWhile (· != ']')
    match cs.drop key.length with
    | [] => [.malformed "Missing ']' in format string"]
    | _ :: rest =>
      if key.isEmpty then [.malformed "Empty attribute in format string"]
      else .item (String.ofList key) :: accessors n rest
  | _, _ => [.malformed "Only '.' or '[' may follow ']' in format field specifier"]

/-- The first part of the name of a place, and the steps from there. -/
def Field.path (f : Field) : String × List Accessor :=
  let cs := f.name.toList
  let first := cs.takeWhile fun c => c != '.' && c != '['
  (String.ofList first, accessors (cs.length + 1) (cs.drop first.length))

/-! ### Percent signs -/

/-- A number in a place: there may be none, and it may be an argument. -/
inductive Measure where
  | absent
  | given (n : Nat)
  | argument
  deriving DecidableEq

/-- A place in a template with percent signs. -/
structure Conversion where
  key : Option String
  flags : List Char
  width : Measure
  precision : Measure
  kind : Char
  /-- The position of the character that says the kind. -/
  position : Nat

/-- The key of a place, from behind the parenthesis that begins it, at some depth of
parentheses. -/
def conversionKey : Nat → List Char → Option (List Char × List Char)
  | _, [] => none
  | depth, c :: cs =>
    if c = ')' && depth = 0 then some ([], cs)
    else
      let depth := if c = '(' then depth + 1 else if c = ')' then depth - 1 else depth
      (conversionKey depth cs).map fun r => (c :: r.1, r.2)

/-- A width or a precision at the beginning of a text. -/
def readMeasure (cs : List Char) : Measure × List Char :=
  match cs with
  | '*' :: rest => (.argument, rest)
  | cs =>
    let digits := cs.takeWhile Char.isDigit
    match wholeNumber? digits with
    | some n => (.given n, cs.drop digits.length)
    | none => (.absent, cs)

/-- A place, from behind the percent sign, in a template of some length. -/
def readConversion (length : Nat) (cs : List Char) : Except String (Conversion × List Char) := do
  let (key, cs) ← match cs with
    | '(' :: rest =>
      match conversionKey 0 rest with
      | some (key, rest) => .ok (some (String.ofList key), rest)
      | none => .error "incomplete format key"
    | cs => .ok (none, cs)
  let flags := cs.takeWhile fun c => ['-', '+', ' ', '#', '0'].contains c
  let (width, cs) := readMeasure (cs.drop flags.length)
  let (precision, cs) := match cs with
    | '.' :: rest =>
      match readMeasure rest with
      | (.absent, rest) => (.given 0, rest)
      | r => r
    | cs => (.absent, cs)
  let cs := match cs with
    | 'h' :: rest | 'l' :: rest | 'L' :: rest => rest
    | cs => cs
  match cs with
  | [] => .error "incomplete format"
  | kind :: rest => return (⟨key, flags, width, precision, kind, length - cs.length⟩, rest)

/-- The pieces of a template with percent signs, found in at most so many steps. -/
def conversionPieces (length : Nat) : Nat → List Char → List (Piece Conversion)
  | 0, _ => []
  | _, [] => []
  | n + 1, cs =>
    let text := cs.takeWhile (· != '%')
    let before := if text.isEmpty then [] else [.literal (String.ofList text)]
    before ++ match cs.drop text.length with
      | [] => []
      | _ :: rest =>
        match readConversion length rest with
        | .ok (conversion, rest) => .place conversion :: conversionPieces length n rest
        | .error why => [.malformed why]

/-- The pieces of a template with percent signs. -/
def conversionsOf (s : String) : List (Piece Conversion) :=
  conversionPieces s.length (s.length + 1) s.toList

end Provision.Text
