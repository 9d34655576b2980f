import Provision.Script.Act

/-!
Jobs: the things that parts of the evaluator ask each other for.

Calling a value, reading an attribute, describing, comparing and iterating, looking a key up, and
resuming, throwing into and closing whatever can be suspended all depend on each other. Each part is
written for any `Performer` of jobs, and the knot is tied once, at the end.
-/

namespace Provision.Script

/-- The comparisons. -/
inductive Comparison where
  | eq
  | ne
  | lt
  | le
  | gt
  | ge
  deriving DecidableEq

namespace Comparison

/-- The name of the method that makes a comparison. -/
def method : Comparison → String
  | .eq => "__eq__"
  | .ne => "__ne__"
  | .lt => "__lt__"
  | .le => "__le__"
  | .gt => "__gt__"
  | .ge => "__ge__"

/-- The sign of a comparison. -/
def sign : Comparison → String
  | .eq => "=="
  | .ne => "!="
  | .lt => "<"
  | .le => "<="
  | .gt => ">"
  | .ge => ">="

/-- The comparison with the two sides exchanged. -/
def swapped : Comparison → Comparison
  | .lt => .gt
  | .le => .ge
  | .gt => .lt
  | .ge => .le
  | c => c

/-- The comparison that the method of this name makes. -/
def ofMethod? (name : String) : Option Comparison :=
  [eq, ne, lt, le, gt, ge].find? fun c => c.method = name

/-- What a comparison says of two things in an order. -/
def holdsFor (c : Comparison) : Ordering → Bool
  | .lt => c = .ne || c = .lt || c = .le
  | .eq => c = .eq || c = .le || c = .ge
  | .gt => c = .ne || c = .gt || c = .ge

end Comparison

/-- A piece of work for the evaluator. -/
inductive Job where
  | call (f : Value) (args : List Value) (named : Named)
  | read (v : Value) (key : String)
  | item (container key : Value)
  /-- Writes a value in words, the way it would be typed or plainly. -/
  | describe (v : Value) (plain : Bool)
  | compare (c : Comparison) (a b : Value)
  | iterate (v : Value)
  /-- Whether a value counts as true. -/
  | judge (v : Value)
  /-- Resumes the body of a suspended object, whatever its stage. -/
  | resume (object : Nat) (how : Resumption Value Fault)
  /-- Goes on with a body when what it waited for has come to an outcome. -/
  | proceed (object : Nat) (outcome : Except Fault Value)
  /-- Sends a value to something that is waited for. -/
  | advance (inner : Value) (v : Value)
  /-- Throws an error into something that is waited for. The closing signal may instead close what
  that one waits for in turn. -/
  | throwInto (inner : Value) (e : Fault) (closing : Bool)
  /-- Closes something that is waited for. -/
  | close (inner : Value)

/-- What a job comes to, unless it faults: a value that ends it, a payload, or a wait. -/
inductive Reply where
  | returns (v : Value)
  | yields (v : Value)
  | waits (m : Mark)

/-- Whoever performs jobs. -/
abbrev Performer := Job → Act Reply

namespace Reply

/-- The value of a reply; a wait gives none. -/
def value : Reply → Value
  | .returns v => v
  | .yields v => v
  | .waits (.given v) => v
  | .waits _ => .none

/-- A reply of something that is awaited: what it yields goes to whoever runs it all. -/
def awaited : Reply → Reply
  | .yields v => .waits (.given v)
  | reply => reply

end Reply

namespace Performer

variable (p : Performer)

/-- Calls a value. -/
def call (f : Value) (args : List Value) (named : Named) : Act Value :=
  return (← p (.call f args named)).value

/-- Reads an attribute. -/
def read (v : Value) (key : String) : Act Value := return (← p (.read v key)).value

/-- Calls a method. -/
def method (self : Value) (name : String) (args : List Value) (named : Named) : Act Value := do
  p.call (← p.read self name) args named

/-- Looks a key up. -/
def item (container key : Value) : Act Value := return (← p (.item container key)).value

/-- The text of a value as it would be typed. -/
def repr (v : Value) : Act String := do
  match (← p (.describe v false)).value with
  | .text s => return s
  | _ => return ""

/-- The plain text of a value. -/
def str (v : Value) : Act String := do
  match (← p (.describe v true)).value with
  | .text s => return s
  | _ => return ""

/-- What a comparison of two values gives. -/
def compare (c : Comparison) (a b : Value) : Act Value :=
  return (← p (.compare c a b)).value

/-- The iterator of a value. -/
def iterate (v : Value) : Act Value := return (← p (.iterate v)).value

/-- Whether a value counts as true. -/
def truth (v : Value) : Act Bool := return (← p (.judge v)).value == .bool true

/-- Whether two values are the same object or equal. -/
def equal (a b : Value) : Act Bool := do
  if a == b then return true else p.truth (← p.compare .eq a b)

/-- A new tuple of what a value gives. -/
def tupleOf (v : Value) : Act Value := do p.call (← classValue (.known "tuple")) [v] []

end Performer

end Provision.Script
