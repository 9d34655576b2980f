/-!
An example: registering users.

A `Routine` is a program written straight through. It asks for services, runs other routines, calls
the methods of what it was given, and ends with a value; errors pass through it. It gets on until it
suspends or ends (`Routine.advance`), and its calls are done by the `Hands` of whoever runs it. A
routine names the services it uses, and whoever runs it decides what they are: `selectOne`,
`userCount` and `registerUser` work with any logger and any database.

The pretend database of the example keeps rows wherever there is a `Keeping`.
-/

namespace Provision

/-- A text of the routine's own, or a value it was given. -/
inductive Word (V : Type) where
  | text (s : String)
  | value (v : V)

/-- A program written straight through: what it does next, and how it goes on. -/
inductive Routine (V : Type) where
  | finish (result : V)
  /-- Asks for a service. -/
  | ask (service : String) (next : V → Routine V)
  /-- Runs another routine, which goes by a name. -/
  | nest (name : String) (inner : Routine V) (next : V → Routine V)
  /-- Calls a method. -/
  | call (object : V) (method : String) (arguments : List (Word V)) (next : V → Routine V)
  /-- Calls a method and awaits what it gives. -/
  | await (object : V) (method : String) (arguments : List (Word V)) (next : V → Routine V)
  /-- Puts a value into words. -/
  | describe (v : V) (next : String → Routine V)

/-- Where a routine suspends or ends. -/
inductive Rest (V M : Type) where
  | finished (result : V)
  | asks (service : String) (next : V → Routine V)
  | nests (name : String) (inner : Routine V) (next : V → Routine V)
  /-- What it awaits has to wait, as the mark says. -/
  | waits (mark : M) (next : V → Routine V)

/-- How the calls of routines are done. What is awaited may have to wait, and then there is a mark. -/
structure Hands (m : Type → Type) (V M : Type) where
  call (object : V) (method : String) (arguments : List (Word V)) : m V
  await (object : V) (method : String) (arguments : List (Word V)) : m (M ⊕ V)
  describe (v : V) : m String

/-- Goes on with a routine until it suspends or ends. -/
def Routine.advance {m : Type → Type} [Monad m] {V M : Type} (hands : Hands m V M) :
    Routine V → m (Rest V M)
  | .finish result => return .finished result
  | .ask service next => return .asks service next
  | .nest name inner next => return .nests name inner next
  | .call object method arguments next => do
    (next (← hands.call object method arguments)).advance hands
  | .await object method arguments next => do
    match ← hands.await object method arguments with
    | .inl mark => return .waits mark next
    | .inr v => (next v).advance hands
  | .describe v next => do (next (← hands.describe v)).advance hands

namespace Registration

variable {V : Type}

/-- Logs, and then asks the database for a constant. -/
def selectOne : Routine V :=
  .ask "Logger" fun logger =>
  .call logger "info" [.text "start"] fun _ =>
  .ask "Database" fun db =>
  .await db "query" [.text "SELECT 1"] .finish

/-- The number of users there are. -/
def userCount : Routine V :=
  .ask "Database" fun db => .call db "count" [.text "users"] .finish

/-- Stores a user, and gives the number of users there are now. -/
def registerUser (name : V) : Routine V :=
  .ask "Logger" fun logger =>
  .ask "Database" fun db =>
  .await db "query" [.text "INSERT INTO users (name) VALUES (?)", .value name] fun _ =>
  .describe name fun shown =>
  .call logger "info" [.text ("registered " ++ shown)] fun _ =>
  .nest "user_count" userCount .finish

/-! ### The pretend database -/

/-- Whether the pretend database takes a query for one that stores a user. -/
def storesUser (query : String) : Bool := "INSERT INTO users".isPrefixOf query

/-- The tables of a new pretend database; they are empty. -/
def tables : List String := ["users"]

/-- How a pretend database keeps its rows, and how it gives some. -/
structure Keeping (m : Type → Type) (V : Type) where
  /-- Whether a query is one that stores a user. -/
  stores (query : V) : m Bool
  append (table : String) (row : List V) : m Unit
  give (rows : List (List (String × Int))) : m V

/-- A query of the pretend database: it stores the parameters as a row, or gives a constant. -/
def Keeping.query {m : Type → Type} [Monad m] (k : Keeping m V) (query : V)
    (parameters : List V) : m V := do
  if ← k.stores query then
    k.append "users" parameters
    k.give []
  else k.give [[("n", 1)]]

end Registration

end Provision
