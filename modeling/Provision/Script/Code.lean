/-!
Scripts: the statement language in which programs, services and environments are written.

A script is a set of named functions of four styles and a list of steps. Expressions never suspend
by themselves; a function body suspends only at a `yield`, an `await` or a delegation, which are
statements. So the place where a body is suspended is a position in its statements.
-/

namespace Provision.Script

/-- An expression. Names of variables, functions, attributes and methods are texts. -/
inductive Expr where
  | none
  | bool (b : Bool)
  | int (i : Int)
  | text (s : String)
  | list (items : List Expr)
  | tuple (items : List Expr)
  | dict (entries : List (Expr × Expr))
  | var (name : String)
  | token (name : Expr)
  | completion (value : Expr)
  /-- A function of the script, not called. -/
  | function (name : String)
  /-- A call of a function of the script. -/
  | start (name : String) (args : List Expr) (named : List (String × Expr))
  | attribute (object : Expr) (name : String)
  | method (object : Expr) (name : String) (args : List Expr) (named : List (String × Expr))
  /-- A call of a library function by its name. -/
  | library (name : String) (args : List Expr) (named : List (String × Expr))
  /-- A call of a value. -/
  | apply (callee : Expr) (args : List Expr) (named : List (String × Expr))
  deriving Inhabited

/-- A statement. -/
inductive Stmt where
  | eval (target : Option String) (e : Expr)
  | await (target : Option String) (e : Expr)
  | yield (target : Option String) (e : Expr)
  /-- Hands the control over to another program until that has ended. -/
  | delegate (target : Option String) (e : Expr)
  | ret (e : Expr)
  | note (e : Expr)
  | raise (e : Expr)
  /-- Raises the error that is being handled. -/
  | reraise
  /-- A body, handlers with the kinds they handle and a name for the error, a part for the case that
  nothing was raised, and a part that is run on every way out. -/
  | attempt (body : List Stmt) (handlers : List (List String × Option String × List Stmt))
      (otherwise cleanup : List Stmt)
  | cond (test : Expr) (yes no : List Stmt)
  | forEach (name : String) (items : Expr) (body : List Stmt)
  | loop (test : Expr) (body : List Stmt)
  | leave
  | next
  /-- A body by whose end a sequence has to be used up. -/
  | consume (sequence : Expr) (body : List Stmt)
  deriving Inhabited

/-- A handler of an `attempt`. -/
abbrev Handler := List String × Option String × List Stmt

/-- What calling a function gives. -/
inductive Style where
  | generator
  | asyncGenerator
  | plain
  | coroutine
  deriving DecidableEq, Inhabited

/-- A function. -/
structure Function where
  name : String
  style : Style
  /-- The parameters, with their values if they may be left out. -/
  params : List (String × Option Expr)
  /-- The parameter that takes the remaining positional arguments. -/
  rest : Option String
  body : List Stmt
  deriving Inhabited

/-- A step of a case: an expression that is evaluated or awaited, and the variables that take its
value or its error. -/
structure Step where
  awaits : Bool
  code : Expr
  target : Option String
  errorTarget : Option String

/-- A case: functions, and steps that share a world. -/
structure Case where
  functions : List Function
  steps : List Step
  /-- Whether the answer lists log records. -/
  logs : Bool

end Provision.Script
