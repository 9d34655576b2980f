import Provision.Script.Method.Basic
import Provision.Text.Encoding
import Provision.Text.Template

/-!
Writing values by layouts, and filling templates with them.

A value writes itself by a layout (`formatValue`): texts and numbers know all of them, other values
only the empty one, unless scripts say otherwise. Templates are filled piece by piece, so that the
pieces in front of a fault are written before it shows.
-/

namespace Provision.Script

open Text (Layout Piece Field Accessor Conversion Measure)

/-- Raises the error for a layout or a template that is not well formed. -/
def orMalformed {α : Type} (x : Except String α) : Act α := do
  match x with
  | .ok a => return a
  | .error why => complain .value why

/-- The text of a value as it would be typed with plain characters only. -/
def reprPlain (p : Performer) (v : Value) : Act String :=
  return Text.quotedPlain (← p.repr v)

/-- The text of a number by a layout. -/
def formatNumber (n : Int) (spec : String) : Act String := do
  let l ← orMalformed (Layout.parse spec "int" true)
  if l.kind = some 'c' && (n < 0 || n ≥ 0x110000) then
    complain .overflow "%c arg not in range(0x110000)"
  orMalformed (l.number n)

/-- The text of a value by a layout, as its class writes it. -/
def nativeFormat (p : Performer) (v : Value) (spec : String) : Act String := do
  match v with
  | .text s =>
    if spec = "" then return s
    else orMalformed (do (← Layout.parse spec "str" false).text s)
  | .int n => if spec = "" then return toString n else formatNumber n spec
  | .bool b => if spec = "" then p.str v else formatNumber (if b then 1 else 0) spec
  | v => textOf "__format__" (← generalMember p "__format__" v [.text spec])

/-- The text of a value by a layout. -/
def formatValue (p : Performer) (v : Value) (spec : String) : Act String := do
  match ← overridden? p v "__format__" [.text spec] with
  | some (.text s) => return s
  | some a =>
    complain .type ("__format__ must return a str, not " ++ (← get).typeName a)
  | none => nativeFormat p v spec

/-! ### Braces -/

/-- How the places of a template without names of their own are counted. -/
inductive Numbering where
  | undecided
  | automatic (next : Nat)
  | manual

/-- The argument that the first part of a name is about. -/
def argumentOf (p : Performer) (args : Option (List Value)) (named : Value) (first : String)
    (numbering : Numbering) : Act (Value × Numbering) := do
  let byPlace (i : Nat) (numbering : Numbering) : Act (Value × Numbering) := do
    match args with
    | none => complain .value "Format string contains positional fields"
    | some args =>
      match args[i]? with
      | some v => return (v, numbering)
      | none =>
        complain .index
          ("Replacement index " ++ toString i ++ " out of range for positional args tuple")
  match first, Text.wholeNumber? first.toList, numbering with
  | "", _, .manual =>
    complain .value
      "cannot switch from manual field specification to automatic field numbering"
  | "", _, .automatic i => byPlace i (.automatic (i + 1))
  | "", _, .undecided => byPlace 0 (.automatic 1)
  | _, some _, .automatic _ =>
    complain .value
      "cannot switch from automatic field numbering to manual field specification"
  | _, some i, _ => byPlace i .manual
  | first, none, numbering => return (← p.item named (.text first), numbering)

/-- Goes from an argument to what a place names. -/
def follow (p : Performer) (v : Value) : Accessor → Act Value
  | .attribute name => p.read v name
  | .item key =>
    match Text.wholeNumber? key.toList with
    | some i => p.item v (.int i)
    | none => p.item v (.text key)
  | .malformed why => complain .value why

/-- Converts a value before it is written. -/
def convert (p : Performer) (v : Value) : Option Char → Act Value
  | none => return v
  | some 'r' => return .text (← p.repr v)
  | some 's' => return .text (← p.str v)
  | some 'a' => return .text (← reprPlain p v)
  | some c => complain .value ("Unknown conversion specifier " ++ c.toString)

/-- Fills a template with braces; its layouts may be templates, to a given depth. -/
def fillFields (p : Performer) (args : Option (List Value)) (named : Value) :
    Nat → String → Numbering → Act (String × Numbering)
  | 0, _, _ => complain .value "Max string recursion exceeded"
  | depth + 1, template, numbering =>
    (Text.fieldsOf template).foldlM (fun (text, numbering) piece => do
      match piece with
      | .literal s => return (text ++ s, numbering)
      | .malformed why => complain .value why
      | .place f =>
        let (first, steps) := f.path
        let (v, numbering) ← argumentOf p args named first numbering
        let v ← steps.foldlM (follow p) v
        let v ← convert p v f.conversion
        let (layout, numbering) ←
          if f.nested then fillFields p args named depth f.layout numbering
          else pure (f.layout, numbering)
        return (text ++ (← formatValue p v layout), numbering)) ("", numbering)

/-- How deep templates may be nested. -/
def templateDepth : Nat := 2

/-! ### Percent signs -/

/-- What is left of the values that a template with percent signs is filled with. -/
structure Supply where
  /-- Whether the template is one of bytes. -/
  binary : Bool
  /-- The values that are taken one after the other. -/
  left : List Value
  /-- What keys are looked up in. -/
  mapping : Option Value

/-- Takes the next value. -/
def Supply.take (s : Supply) : Act (Value × Supply) := do
  match s.left with
  | v :: rest => return (v, { s with left := rest })
  | [] => complain .type "not enough arguments for format string"

/-- A width or a precision, which may be one of the values. -/
def measureOf (s : Supply) : Measure → Act (Option Int × Supply)
  | .absent => return (none, s)
  | .given n => return (some n, s)
  | .argument => do
    let (v, s) ← s.take
    match World.number? v with
    | some n => return (some n, s)
    | none => complain .type "* wants int"

/-- A number in a place of a template with percent signs, before it is put into its width. -/
def percentNumber (p : Performer) (c : Conversion) (precision : Option Int) (v : Value) :
    Act (List Char × List Char) := do
  let given := (← get).typeName v
  let whole ← match World.number? v with
    | some n => pure (some n)
    | none => indexOf? p v
  match whole with
  | none =>
    if ['f', 'F', 'e', 'E', 'g', 'G'].contains c.kind then
      complain .type ("must be real number, not " ++ given)
    else
      let wanted := if ['o', 'x', 'X'].contains c.kind then "an integer" else "a real number"
      complain .type
        ("%" ++ c.kind.toString ++ " format: " ++ wanted ++ " is required, not " ++ given)
  | some n =>
    let sign := if n < 0 then ['-'] else if c.flags.contains '+' then ['+']
      else if c.flags.contains ' ' then [' '] else []
    let alternate := c.flags.contains '#'
    let (mark, digits) := match c.kind with
      | 'x' => ("0x", Text.digitsOf 16 n.natAbs false)
      | 'X' => ("0X", Text.digitsOf 16 n.natAbs true)
      | 'o' => ("0o", Text.digitsOf 8 n.natAbs false)
      | _ => ("", Text.digitsOf 10 n.natAbs false)
    if ['f', 'F'].contains c.kind then
      let places := (precision.getD 6).toNat
      let point := if places = 0 && !alternate then [] else '.' :: List.replicate places '0'
      return (sign, digits ++ point)
    let zeros := List.replicate ((precision.getD 0).toNat - digits.length) '0'
    return (sign ++ (if alternate then mark.toList else []), zeros ++ digits)

/-- The bytes of a value in a template of bytes, as characters. -/
def bytesInTemplate (p : Performer) (v : Value) : Act (List Char) := do
  match ← look v with
  | some (.bytes items) => return items.map Char.ofNat
  | _ =>
    match ← overridden? p v "__bytes__" [] with
    | some a =>
      match ← look a with
      | some (.bytes items) => return items.map Char.ofNat
      | _ => complain .type ("__bytes__ returned non-bytes (type " ++ (← get).typeName a ++ ")")
    | none =>
      complain .type ("%b requires a bytes-like object, or an object that implements __bytes__, " ++
        "not '" ++ (← get).typeName v ++ "'")

/-- What a place of a template with percent signs becomes: what is in front, and the rest. -/
def percentParts (p : Performer) (binary : Bool) (c : Conversion) (precision : Option Int)
    (v : Value) : Act (List Char × List Char) := do
  let cut (cs : List Char) : List Char × List Char :=
    ([], match precision with
      | some n => cs.take n.toNat
      | none => cs)
  match c.kind, binary with
  | 's', false => return cut (← p.str v).toList
  | 's', true | 'b', true => return cut (← bytesInTemplate p v)
  | 'r', false => return cut (← p.repr v).toList
  | 'r', true | 'a', _ => return cut (← reprPlain p v).toList
  | 'c', true =>
    match ← look v, ← indexOf? p v with
    | some (.bytes [n]), _ => return ([], [Char.ofNat n])
    | _, some n =>
      if n < 0 || n ≥ 256 then complain .overflow "%c arg not in range(256)"
      return ([], [Char.ofNat n.toNat])
    | _, none => complain .type "%c requires an integer in range(256) or a single byte"
  | 'c', false =>
    match v, ← indexOf? p v with
    | .text s, _ =>
      match s.toList with
      | [x] => return ([], [x])
      | _ => complain .type "%c requires int or char"
    | _, some n =>
      if n < 0 || n ≥ 0x110000 then complain .overflow "%c arg not in range(0x110000)"
      return ([], [Char.ofNat n.toNat])
    | _, none => complain .type "%c requires int or char"
  | kind, _ =>
    if ['d', 'i', 'u', 'o', 'x', 'X', 'f', 'F'].contains kind then percentNumber p c precision v
    else
      complain .value ("unsupported format character '" ++
        (if kind.toNat < 128 then kind.toString else "?") ++ "' (0x" ++
        String.ofList (Nat.toDigits 16 kind.toNat) ++ ") at index " ++ toString c.position)

/-- Fills one place of a template with percent signs. -/
def fillConversion (p : Performer) (c : Conversion) (s : Supply) : Act (String × Supply) := do
  let s ← match c.key, s.mapping with
    | none, _ => pure s
    | some _, none => complain .type "format requires a mapping"
    | some key, some mapping => do
      let key ← if s.binary then alloc (.bytes (key.toList.map Char.toNat)) else pure (.text key)
      pure { s with left := [← p.item mapping key] }
  let (width, s) ← measureOf s c.width
  let (precision, s) ← measureOf s c.precision
  if c.kind = '%' then return ("%", s)
  let (v, s) ← s.take
  let (before, rest) ← percentParts p s.binary c precision v
  let width := width.getD 0
  let missing := width.natAbs - (before.length + rest.length)
  let numeric := !(['s', 'r', 'a', 'c', 'b'].contains c.kind)
  let text :=
    if c.flags.contains '-' || width < 0 then before ++ rest ++ List.replicate missing ' '
    else if c.flags.contains '0' && numeric then before ++ List.replicate missing '0' ++ rest
    else List.replicate missing ' ' ++ before ++ rest
  return (String.ofList text, s)

/-- Fills a template with percent signs with the items of a tuple, or with a value that is one or
has the keys. A template of bytes has characters of the same codes. -/
def fillConversions (p : Performer) (binary : Bool) (template : String) (v : Value) :
    Act String := do
  let w ← get
  let keyed := (w.inherited? (w.classOf v) "__getitem__").isSome
  let mapping := match v, w.object? v, binary with
    | .text _, _, _ | _, some (.tuple _), _ | _, some (.call _), _ => none
    | _, some (.bytes _), true => none
    | _, _, _ => if keyed then some v else none
  let left := match w.object? v with
    | some (.tuple items) | some (.call items) => items
    | _ => [v]
  let (text, s) ← (Text.conversionsOf template).foldlM (fun (text, s) piece => do
    match piece with
    | .literal t => return (text ++ t, s)
    | .malformed why => complain .value why
    | .place c =>
      let (t, s) ← fillConversion p c s
      return (text ++ t, s)) ("", Supply.mk binary left mapping)
  if !s.left.isEmpty && s.mapping.isNone then
    complain .type ("not all arguments converted during " ++
      (if binary then "bytes" else "string") ++ " formatting")
  return text

end Provision.Script
