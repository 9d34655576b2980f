import Provision.Script.Attribute
import Provision.Text.Blank
import Provision.Text.Quoted
import Provision.Text.Split

/-!
Listings: values written over several lines where one would be too long.

A collection that does not fit into the rest of its line is written item by item, each on a line of
its own (`Listing.spread`); a long text is cut behind its blanks. A dictionary is written in the
order of its keys. Everything else is written as it is anywhere.
-/

namespace Provision.Script.Listing

/-- The longest line. -/
def width : Nat := 80

/-- How deep collections are opened. -/
def depth : Nat := 200

/-- Whether one key comes before another one; keys that cannot be compared are ordered by their
classes. -/
def precedes (p : Performer) (a b : Value) : Act Bool := do
  match ← Act.attempt (do p.truth (← p.compare .lt a b)) with
  | .ok before => return before
  | .error e =>
    if ← isKind e "TypeError" then
      let w ← get
      return w.typeName a < w.typeName b
    else throw e

/-- Puts an entry behind those that it does not precede. -/
def place (p : Performer) (entry : Value × Value) :
    List (Value × Value) → Act (List (Value × Value))
  | [] => return [entry]
  | e :: rest => do
    if ← precedes p entry.1 e.1 then return entry :: e :: rest
    else return e :: (← place p entry rest)

/-- The entries of a dictionary in the order of their keys. -/
def ordered (p : Performer) (entries : Dict) : Act (List (Value × Value)) :=
  (entries.pairs.map fun e => (e.1.shown, e.2)).foldlM (fun sorted e => place p e sorted) []

/-- The end of a tuple of so many items. -/
def tupleEnd (size : Nat) : String := if size = 1 then ",)" else ")"

/-- A value on one line. -/
def line (p : Performer) : Nat → Value → Act String
  | 0, v => p.repr v
  | depth + 1, v => do
    match ← look v with
    | some (.list items) =>
      return Text.bracketed (← items.toList.mapM (line p depth))
    | some (.tuple items) =>
      return "(" ++ ", ".intercalate (← items.mapM (line p depth)) ++
        (if items.length = 1 then ",)" else ")")
    | some (.dict entries) =>
      let parts ← (← ordered p entries).mapM fun e => do
        return (← line p depth e.1) ++ ": " ++ (← line p depth e.2)
      return "\x7b" ++ ", ".intercalate parts ++ "\x7d"
    | _ => p.repr v

/-- The beginning of a further line. -/
def newLine (indent : Nat) : String := "\n" ++ String.ofList (List.replicate indent ' ')

/-- The pieces of a line of text, each a word with the blanks behind it, in at most so many steps. -/
def pieces : Nat → List Char → List (List Char)
  | 0, _ => []
  | _, [] => []
  | fuel + 1, cs =>
    let word := cs.takeWhile fun c => !Text.isBlank c
    let gap := (cs.drop word.length).takeWhile Text.isBlank
    (word ++ gap) :: pieces fuel (cs.drop (word.length + gap.length))

/-- Quoted pieces of a text, as long as fits into a width each; what follows the text on its last
line takes some of the room. -/
def fill (room after : Nat) (last : Bool) : List Char → List (List Char) → List String
  | current, [] => if current.isEmpty then [] else [quote current]
  | current, piece :: rest =>
    let room := if last && rest.isEmpty then room - after else room
    if (quote (current ++ piece)).length > room then
      (if current.isEmpty then [] else [quote current]) ++ fill room after last piece rest
    else fill room after last (current ++ piece) rest
where
  /-- Characters in quotes. -/
  quote (cs : List Char) : String := Text.quoted (String.ofList cs)

/-- The quoted pieces of a text. -/
def chunks (room after : Nat) : List (List Char) → List String
  | [] => []
  | l :: rest =>
    let last := rest.isEmpty
    let whole := Text.quoted (String.ofList l)
    (if whole.length ≤ room - (if last then after else 0) then [whole]
      else fill room after last [] (pieces (l.length + 1) l)) ++ chunks room after rest

/-- A value from a column on, where some characters follow it on its last line. -/
def spread (p : Performer) : Nat → Nat → Nat → Value → Act String
  | 0, _, _, v => p.repr v
  | depth + 1, indent, after, v => do
    let short ← line p depth v
    if short.length + indent + after ≤ width then return short
    match v, ← look v with
    | .text s, _ =>
      let cs := s.toList
      let lines := Text.linesOf Text.endsLine true (cs.length + 1) cs
      return (newLine indent).intercalate (chunks (width - indent) after lines)
    | _, some (.list items) => return "[" ++ (← items.toList |> each depth indent (after + 1)) ++ "]"
    | _, some (.tuple items) =>
      let close := tupleEnd items.length
      return "(" ++ (← each depth indent (after + close.length) items) ++ close
    | _, some (.dict entries) =>
      let indent := indent + 1
      let entries ← ordered p entries
      let parts ← entries.zipIdx.mapM fun e => do
        let key ← line p depth e.1.1
        let after := if e.2 + 1 = entries.length then after + 1 else 1
        return key ++ ": " ++ (← spread p depth (indent + key.length + 2) after e.1.2)
      return "\x7b" ++ ("," ++ newLine indent).intercalate parts ++ "\x7d"
    | _, _ => return short
where
  /-- The items of a collection, each on a line of its own. -/
  each (depth indent after : Nat) (items : List Value) : Act String := do
    let indent := indent + 1
    let parts ← items.zipIdx.mapM fun e =>
      spread p depth indent (if e.2 + 1 = items.length then after else 1) e.1
    return ("," ++ newLine indent).intercalate parts

/-- A list of items. -/
def ofItems (p : Performer) (items : List Value) : Act String := do
  let short := Text.bracketed (← items.mapM (line p depth))
  if short.length ≤ width then return short
  let parts ← items.mapM (spread p depth 1 1)
  return "[" ++ ("," ++ newLine 1).intercalate parts ++ "]"

end Provision.Script.Listing
