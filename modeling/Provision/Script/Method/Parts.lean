import Provision.Script.Method.Sequence
import Provision.Text.Split

/-!
What the methods of texts and of bytes have in common: cutting into parts, joining parts, and
filling up to a width.

Both are lists of characters here. A method reads its numbers first; where an empty separator is
refused, that comes last.
-/

namespace Provision.Script

/-- How many cuts an argument allows; a negative number allows all. -/
def cutsOf (p : Performer) (v : Value) : Act (Option Nat) := do
  let n ← sizeOf p v
  return if n < 0 then none else some n.toNat

/-- The parts between separators, or between blanks if there is no separator. -/
def splitParts (back : Bool) (blank : Char → Bool) (separator : Option (List Char))
    (cuts : Option Nat) (cs : List Char) : Act (List (List Char)) := do
  match separator with
  | none => return if back then Text.splitBlankBack blank cuts cs else Text.splitBlank blank cuts cs
  | some [] => complain .value "empty separator"
  | some mark => return if back then Text.splitByBack mark cuts cs else Text.splitBy mark cuts cs

/-- The three parts around the first separator, or around the last one. -/
def partitioned (back : Bool) (cs separator : List Char) : Act (List (List Char)) := do
  match ← splitParts back (fun _ => false) (some separator) (some 1) cs with
  | [a, b] => return [a, separator, b]
  | _ => return if back then [[], [], cs] else [cs, [], []]

/-- The width that an argument asks for. -/
def widthOf (p : Performer) (v : Value) : Act Nat := do
  let width := (← sizeOf p v).toNat
  if width > memoryLimit then raise .memory []
  return width

/-- Characters filled up to a width, in the way that a method is named for. -/
def justified (name : String) (width : Nat) (fill : Char) (cs : List Char) : List Char :=
  let padding := List.replicate (width - cs.length) fill
  match name with
  | "center" => Text.centered width fill cs
  | "ljust" => cs ++ padding
  | _ => padding ++ cs

/-- The encoding that a method is given, and what it is to do about faults. -/
def codecGiven (method : String) (named : Named) : Act (String × String) := do
  let word (name otherwise : String) : Act String := do
    match named.lookup name with
    | none => return otherwise
    | some (.text s) => return s
    | some v =>
      let given ← if v = .none then pure "None" else do pure ((← get).typeName v)
      complain .type (method ++ "() argument '" ++ name ++ "' must be str, not " ++ given)
  return (← word "encoding" "utf-8", ← word "errors" "strict")

/-- The parameters of a method that writes or reads an encoding. -/
def codecParameters : List (String × Option Value) :=
  [optional "encoding" (.text "utf-8"), optional "errors" (.text "strict")]

/-- The items that are joined. -/
def joinedItems (p : Performer) (v : Value) : Act (List Value) := do
  match World.sequenceItems? (← look v) with
  | some items => return items
  | none =>
    match ← Act.attempt (iteratorOf p v) with
    | .ok it => listOf p it
    | .error e =>
      if ← isKind e "TypeError" then complain .type "can only join an iterable" else throw e

end Provision.Script
