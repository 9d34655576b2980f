import Provision.Dialogue

/-!
The kinds of errors, and which of them belong to which.

A kind has a name and at most one kind that it directly belongs to; `ErrorKind.isA` follows these
steps upwards. Three kinds are signals that control flow itself is made of (`ErrorKind.nature`).
-/

namespace Provision.Script

/-- The kinds of errors. -/
inductive ErrorKind where
  | base
  | generatorExit
  | exception
  | stopIteration
  | stopAsyncIteration
  | value
  | type
  | attribute
  | runtime
  | assertion
  | os
  | lookup
  | index
  | key
  | subKey
  | arithmetic
  | zeroDivision
  | cancelled
  | serviceNotProvided
  | notSynchronous
  | resolutionType
  | frozenInstance
  | unboundName
  | invalidSpec
  | taskCancelled
  | blockingOperation
  | childProcess
  | connection
  | brokenPipe
  | connectionAborted
  | connectionRefused
  | connectionReset
  | fileExists
  | fileNotFound
  | interrupted
  | isDirectory
  | notDirectory
  | permission
  | noProcess
  | timeout
  | overflow
  | unicode
  | unicodeEncode
  | unicodeDecode
  | recursion
  | memory
  deriving DecidableEq, Inhabited

/-- Every kind of error, with its name and the kind it belongs to. -/
def ErrorKind.table : List (ErrorKind × String × Option ErrorKind) :=
  [(.base, "BaseException", none),
   (.generatorExit, "GeneratorExit", some .base),
   (.exception, "Exception", some .base),
   (.stopIteration, "StopIteration", some .exception),
   (.stopAsyncIteration, "StopAsyncIteration", some .exception),
   (.value, "ValueError", some .exception),
   (.type, "TypeError", some .exception),
   (.attribute, "AttributeError", some .exception),
   (.runtime, "RuntimeError", some .exception),
   (.assertion, "AssertionError", some .exception),
   (.os, "OSError", some .exception),
   (.lookup, "LookupError", some .exception),
   (.index, "IndexError", some .lookup),
   (.key, "KeyError", some .lookup),
   (.subKey, "SubKeyError", some .key),
   (.arithmetic, "ArithmeticError", some .exception),
   (.zeroDivision, "ZeroDivisionError", some .arithmetic),
   (.cancelled, "Cancelled", some .exception),
   (.serviceNotProvided, "ServiceNotProvided", some .exception),
   (.notSynchronous, "NotSynchronousError", some .exception),
   (.resolutionType, "ResolutionTypeError", some .type),
   (.frozenInstance, "FrozenInstanceError", some .attribute),
   (.unboundName, "NameError", some .exception),
   (.invalidSpec, "InvalidSpecError", some .exception),
   (.taskCancelled, "CancelledError", some .base),
   (.blockingOperation, "BlockingIOError", some .os),
   (.childProcess, "ChildProcessError", some .os),
   (.connection, "ConnectionError", some .os),
   (.brokenPipe, "BrokenPipeError", some .connection),
   (.connectionAborted, "ConnectionAbortedError", some .connection),
   (.connectionRefused, "ConnectionRefusedError", some .connection),
   (.connectionReset, "ConnectionResetError", some .connection),
   (.fileExists, "FileExistsError", some .os),
   (.fileNotFound, "FileNotFoundError", some .os),
   (.interrupted, "InterruptedError", some .os),
   (.isDirectory, "IsADirectoryError", some .os),
   (.notDirectory, "NotADirectoryError", some .os),
   (.permission, "PermissionError", some .os),
   (.noProcess, "ProcessLookupError", some .os),
   (.timeout, "TimeoutError", some .os),
   (.overflow, "OverflowError", some .arithmetic),
   (.unicode, "UnicodeError", some .value),
   (.unicodeEncode, "UnicodeEncodeError", some .unicode),
   (.unicodeDecode, "UnicodeDecodeError", some .unicode),
   (.recursion, "RecursionError", some .runtime),
   (.memory, "MemoryError", some .exception)]

namespace ErrorKind

/-- The name of a kind. -/
def name (k : ErrorKind) : String :=
  match table.find? (·.1 = k) with
  | some (_, n, _) => n
  | none => ""

/-- The kind of a name. -/
def ofName? (n : String) : Option ErrorKind := (table.find? (·.2.1 = n)).map (·.1)

/-- The kind that a kind directly belongs to. -/
def parent (k : ErrorKind) : Option ErrorKind := (table.find? (·.1 = k)).bind (·.2.2)

/-- A kind and the kinds it belongs to, nearest first; no chain is longer than the table. -/
def ancestors (k : ErrorKind) : List ErrorKind := climb table.length k
where
  /-- The first steps of the way up. -/
  climb : Nat → ErrorKind → List ErrorKind
    | 0, _ => []
    | n + 1, k => k :: (match k.parent with | some p => climb n p | none => [])

/-- Whether a kind is, or belongs to, the kind of this name. -/
def isA (k : ErrorKind) (n : String) : Bool := k.ancestors.any fun a => a.name = n

/-- The kind of an error of the operating system, by its number. -/
def ofNumber (n : Int) : ErrorKind :=
  (([(1, .permission), (2, .fileNotFound), (3, .noProcess), (4, .interrupted), (10, .childProcess),
    (11, .blockingOperation), (13, .permission), (17, .fileExists), (20, .notDirectory),
    (21, .isDirectory), (32, .brokenPipe), (103, .connectionAborted), (104, .connectionReset),
    (108, .brokenPipe), (110, .timeout), (111, .connectionRefused), (114, .blockingOperation),
    (115, .blockingOperation)] : List (Int × ErrorKind)).lookup n).getD .os

/-- The part a kind plays in control flow. -/
def nature : ErrorKind → Nature
  | .stopIteration => .ended
  | .stopAsyncIteration => .asyncEnded
  | .generatorExit => .closing
  | _ => .ordinary

end ErrorKind

end Provision.Script
