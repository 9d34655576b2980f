import Provision.Text.Numeral

/-!
Layouts: how texts and whole numbers are written to a width.

A layout is read from a few characters (`Layout.parse`): what to fill with and where, the sign, the
width, a mark between groups of digits, a precision, and the kind of the presentation. `Layout.text`
and `Layout.number` write by it, or say in words why they cannot.
-/

namespace Provision.Text

/-! ### Digits -/

/-- The digits of a number to a base. -/
def digitsOf (base n : Nat) (capital : Bool) : List Char :=
  let digits := Nat.toDigits base n
  if capital then digits.map Char.toUpper else digits

/-- Digits in groups of some size, counted from the end. -/
def grouped (mark : Char) (size : Nat) (digits : List Char) : List Char :=
  let n := digits.length
  (digits.zipIdx.flatMap fun e =>
    if e.2 != 0 && (n - e.2) % size = 0 then [mark, e.1] else [e.1])

/-- Digits in groups, with as many zeros in front as a width needs. -/
def groupedTo (mark : Char) (size width : Nat) (digits : List Char) : List Char :=
  let more := (List.range (width + 1)).find? fun k =>
    (grouped mark size (List.replicate k '0' ++ digits)).length ≥ width
  grouped mark size (List.replicate (more.getD 0) '0' ++ digits)

/-- The number that the decimal digits of a text stand for, if it has no other characters. -/
def wholeNumber? (cs : List Char) : Option Nat :=
  if cs.isEmpty then none
  else cs.foldl (fun n c => do return (← n) * 10 + (← decimalValue? c)) (some 0)

/-! ### Reading -/

/-- How a value is laid out. -/
structure Layout where
  fill : Char
  align : Option Char
  sign : Option Char
  /-- Whether a zero is never written as a negative one. -/
  noNegativeZero : Bool
  alternate : Bool
  width : Nat
  grouping : Option Char
  precision : Option Nat
  kind : Option Char

/-- Whether a character says where a value is put. -/
def isAlign (c : Char) : Bool := ['<', '>', '=', '^'].contains c

/-- The greatest width. -/
def widthLimit : Nat := 9223372036854775807

/-- The fill character and the alignment at the beginning of a layout. -/
def readFill : List Char → Option Char × Option Char × List Char
  | f :: a :: rest =>
    if isAlign a then (some f, some a, rest)
    else if isAlign f then (none, some f, a :: rest)
    else (none, none, f :: a :: rest)
  | [a] => if isAlign a then (none, some a, []) else (none, none, [a])
  | [] => (none, none, [])

/-- A character, if the text begins with it. -/
def readMark (c : Char) : List Char → Bool × List Char
  | d :: rest => if d = c then (true, rest) else (false, d :: rest)
  | [] => (false, [])

/-- The number at the beginning of a text. -/
def readNumber (cs : List Char) : Except String (Option Nat × List Char) :=
  let digits := cs.takeWhile isDecimal
  match wholeNumber? digits with
  | none => .ok (none, cs)
  | some n =>
    if n > widthLimit then .error "Too many decimal digits in format string"
    else .ok (some n, cs.drop digits.length)

/-- Reads a layout for a value of a class; `numeric` says whether a number is put at the end. -/
def Layout.parse (spec cls : String) (numeric : Bool) : Except String Layout := do
  let (fill, align, cs) := readFill spec.toList
  let (sign, cs) := match cs with
    | c :: rest => if [' ', '+', '-'].contains c then (some c, rest) else (none, cs)
    | [] => (none, [])
  let (noNegativeZero, cs) := readMark 'z' cs
  let (alternate, cs) := readMark '#' cs
  let (zero, cs) := if fill.isNone then readMark '0' cs else (false, cs)
  let (width, cs) ← readNumber cs
  let (comma, cs) := readMark ',' cs
  let (line, cs) := readMark '_' cs
  let (again, cs) := if line then readMark ',' cs else (false, cs)
  if comma && line || again then .error "Cannot specify both ',' and '_'."
  let (point, cs) := readMark '.' cs
  let (precision, cs) ← if point then readNumber cs else .ok (none, cs)
  if point && precision.isNone then .error "Format specifier missing precision"
  let kind ← match cs with
    | [] => .ok none
    | [c] => .ok (some c)
    | _ =>
      .error ("Invalid format specifier '" ++ spec ++ "' for object of type '" ++ cls ++ "'")
  return {
    fill := fill.getD (if zero then '0' else ' ')
    align := align.or (if zero && numeric then some '=' else none)
    sign, noNegativeZero, alternate
    width := width.getD 0
    grouping := if comma then some ',' else if line then some '_' else none
    precision, kind }

namespace Layout

/-- Checks that groups of digits can be marked in a presentation. -/
def checkGrouping (l : Layout) (shown : Char) : Except String Unit :=
  match l.grouping with
  | none => .ok ()
  | some mark =>
    let fine := ['d', 'e', 'f', 'g', 'E', 'G', '%', 'F'].contains shown ||
      mark = '_' && ['b', 'o', 'x', 'X'].contains shown
    if fine then .ok ()
    else
      .error ("Cannot specify '" ++ mark.toString ++ "' with '" ++ shown.toString ++ "'.")

/-- Puts what comes before a value, and the value, into the width. -/
def place (l : Layout) (align : Char) (before value : List Char) : String :=
  let missing := l.width - (before.length + value.length)
  let fill (n : Nat) : List Char := List.replicate n l.fill
  String.ofList <|
    match align with
    | '<' => before ++ value ++ fill missing
    | '^' => fill (missing / 2) ++ before ++ value ++ fill (missing - missing / 2)
    | '=' => before ++ fill missing ++ value
    | _ => fill missing ++ before ++ value

/-- A text by a layout. -/
def text (l : Layout) (s : String) : Except String String := do
  match l.kind with
  | none => pure ()
  | some c =>
    if c != 's' then
      .error ("Unknown format code '" ++ c.toString ++ "' for object of type 'str'")
  l.checkGrouping 's'
  match l.sign with
  | some ' ' => .error "Space not allowed in string format specifier"
  | some _ => .error "Sign not allowed in string format specifier"
  | none => pure ()
  if l.noNegativeZero then
    .error "Negative zero coercion (z) not allowed in string format specifier"
  if l.alternate then .error "Alternate form (#) not allowed in string format specifier"
  if l.align = some '=' then .error "'=' alignment not allowed in string format specifier"
  let cs := match l.precision with
    | some n => s.toList.take n
    | none => s.toList
  return l.place (l.align.getD '<') [] cs

/-- The sign of a number. -/
def signOf (l : Layout) (negative : Bool) : List Char :=
  if negative then ['-']
  else match l.sign with
    | some '+' => ['+']
    | some ' ' => [' ']
    | _ => []

/-- The digits of a number in a presentation, and what is written in front of them. -/
def digits? (l : Layout) (n : Int) : Option (List Char × List Char × List Char × Nat) :=
  let m := n.natAbs
  let inBase (base size : Nat) (mark : String) (capital : Bool) :=
    some (if l.alternate then mark.toList else [], digitsOf base m capital, [], size)
  let decimal (m : Nat) (after : List Char) : Option _ := some ([], digitsOf 10 m false, after, 3)
  let places := l.precision.getD 6
  let point := if places = 0 && !l.alternate then [] else '.' :: List.replicate places '0'
  match l.kind.getD 'd' with
  | 'd' | 'n' => decimal m []
  | 'b' => inBase 2 4 "0b" false
  | 'o' => inBase 8 4 "0o" false
  | 'x' => inBase 16 4 "0x" false
  | 'X' => inBase 16 4 "0X" true
  | 'f' | 'F' => decimal m point
  | '%' => decimal (m * 100) (point ++ ['%'])
  | _ => none

/-- A whole number by a layout. -/
def number (l : Layout) (n : Int) : Except String String := do
  let kind := l.kind.getD 'd'
  let isWhole := ['d', 'n', 'b', 'o', 'x', 'X', 'c'].contains kind
  l.checkGrouping kind
  if isWhole && l.precision.isSome then
    .error "Precision not allowed in integer format specifier"
  if isWhole && l.noNegativeZero then
    .error "Negative zero coercion (z) not allowed in integer format specifier"
  if kind = 'c' then
    if l.sign.isSome then .error "Sign not allowed with integer format specifier 'c'"
    if l.alternate then
      .error "Alternate form (#) not allowed with integer format specifier 'c'"
    return l.place (l.align.getD '>') [] [Char.ofNat n.toNat]
  match l.digits? n with
  | none =>
    .error ("Unknown format code '" ++ kind.toString ++ "' for object of type 'int'")
  | some (mark, digits, after, size) =>
    let before := l.signOf (n < 0) ++ mark
    let align := l.align.getD '>'
    let width :=
      if l.fill = '0' && align = '=' then l.width - (before.length + after.length) else 0
    let digits := match l.grouping with
      | some c => groupedTo c size width digits
      | none => digits
    return l.place align before (digits ++ after)

end Layout

example : ((Layout.parse "08," "int" true).bind fun l => l.number 1234).toOption =
    some "0,001,234" := by decide +kernel

end Provision.Text
