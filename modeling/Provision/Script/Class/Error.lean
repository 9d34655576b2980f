import Provision.Script.Class.Basic

/-!
The classes of errors.
-/

namespace Provision.Script

/-- The classes of errors. -/
def errorClasses : List ClassInfo := [
  { name := "BaseException"
    ancestors := ["object"]
    operators := ["__repr__", "__str__", "__getattribute__", "__setattr__", "__delattr__",
      "__init__"]
    builtIns := ["__reduce__", "__setstate__", "with_traceback", "add_note"]
    computed := ["__dict__", "args", "__traceback__", "__context__", "__cause__"]
    slots := ["__suppress_context__"]
    free := ["__new__"] },
  { name := "GeneratorExit"
    ancestors := ["BaseException", "object"]
    operators := ["__init__"]
    free := ["__new__"] },
  { name := "Exception"
    ancestors := ["BaseException", "object"]
    operators := ["__init__"]
    free := ["__new__"] },
  { name := "StopIteration"
    ancestors := ["Exception", "BaseException", "object"]
    operators := ["__init__"]
    slots := ["value"] },
  { name := "StopAsyncIteration"
    ancestors := ["Exception", "BaseException", "object"]
    operators := ["__init__"]
    free := ["__new__"] },
  { name := "ValueError"
    ancestors := ["Exception", "BaseException", "object"]
    operators := ["__init__"]
    free := ["__new__"] },
  { name := "TypeError"
    ancestors := ["Exception", "BaseException", "object"]
    operators := ["__init__"]
    free := ["__new__"] },
  { name := "AttributeError"
    ancestors := ["Exception", "BaseException", "object"]
    operators := ["__str__", "__init__"]
    slots := ["name", "obj"] },
  { name := "RuntimeError"
    ancestors := ["Exception", "BaseException", "object"]
    operators := ["__init__"]
    free := ["__new__"] },
  { name := "AssertionError"
    ancestors := ["Exception", "BaseException", "object"]
    operators := ["__init__"]
    free := ["__new__"] },
  { name := "OSError"
    ancestors := ["Exception", "BaseException", "object"]
    operators := ["__str__", "__init__"]
    builtIns := ["__reduce__"]
    computed := ["characters_written"]
    slots := ["errno", "strerror", "filename", "filename2"]
    free := ["__new__"] },
  { name := "LookupError"
    ancestors := ["Exception", "BaseException", "object"]
    operators := ["__init__"]
    free := ["__new__"] },
  { name := "IndexError"
    ancestors := ["LookupError", "Exception", "BaseException", "object"]
    operators := ["__init__"]
    free := ["__new__"] },
  { name := "KeyError"
    ancestors := ["LookupError", "Exception", "BaseException", "object"]
    operators := ["__str__", "__init__"] },
  { name := "ArithmeticError"
    ancestors := ["Exception", "BaseException", "object"]
    operators := ["__init__"]
    free := ["__new__"] },
  { name := "ZeroDivisionError"
    ancestors := ["ArithmeticError", "Exception", "BaseException", "object"]
    operators := ["__init__"]
    free := ["__new__"] },
  { name := "NameError"
    ancestors := ["Exception", "BaseException", "object"]
    operators := ["__str__", "__init__"]
    slots := ["name"] },
  { name := "BlockingIOError"
    ancestors := ["OSError", "Exception", "BaseException", "object"]
    operators := ["__init__"] },
  { name := "ChildProcessError"
    ancestors := ["OSError", "Exception", "BaseException", "object"]
    operators := ["__init__"] },
  { name := "ConnectionError"
    ancestors := ["OSError", "Exception", "BaseException", "object"]
    operators := ["__init__"] },
  { name := "BrokenPipeError"
    ancestors := ["ConnectionError", "OSError", "Exception", "BaseException", "object"]
    operators := ["__init__"] },
  { name := "ConnectionAbortedError"
    ancestors := ["ConnectionError", "OSError", "Exception", "BaseException", "object"]
    operators := ["__init__"] },
  { name := "ConnectionRefusedError"
    ancestors := ["ConnectionError", "OSError", "Exception", "BaseException", "object"]
    operators := ["__init__"] },
  { name := "ConnectionResetError"
    ancestors := ["ConnectionError", "OSError", "Exception", "BaseException", "object"]
    operators := ["__init__"] },
  { name := "FileExistsError"
    ancestors := ["OSError", "Exception", "BaseException", "object"]
    operators := ["__init__"] },
  { name := "FileNotFoundError"
    ancestors := ["OSError", "Exception", "BaseException", "object"]
    operators := ["__init__"] },
  { name := "InterruptedError"
    ancestors := ["OSError", "Exception", "BaseException", "object"]
    operators := ["__init__"] },
  { name := "IsADirectoryError"
    ancestors := ["OSError", "Exception", "BaseException", "object"]
    operators := ["__init__"] },
  { name := "NotADirectoryError"
    ancestors := ["OSError", "Exception", "BaseException", "object"]
    operators := ["__init__"] },
  { name := "PermissionError"
    ancestors := ["OSError", "Exception", "BaseException", "object"]
    operators := ["__init__"] },
  { name := "ProcessLookupError"
    ancestors := ["OSError", "Exception", "BaseException", "object"]
    operators := ["__init__"] },
  { name := "TimeoutError"
    ancestors := ["OSError", "Exception", "BaseException", "object"]
    operators := ["__init__"] },
  { name := "OverflowError"
    ancestors := ["ArithmeticError", "Exception", "BaseException", "object"]
    operators := ["__init__"]
    free := ["__new__"] },
  { name := "MemoryError"
    ancestors := ["Exception", "BaseException", "object"]
    operators := ["__init__"]
    free := ["__new__"] },
  { name := "UnicodeError"
    ancestors := ["ValueError", "Exception", "BaseException", "object"]
    operators := ["__init__"]
    free := ["__new__"] },
  { name := "UnicodeEncodeError"
    ancestors := ["UnicodeError", "ValueError", "Exception", "BaseException", "object"]
    operators := ["__str__", "__init__"]
    slots := ["encoding", "object", "start", "end", "reason"]
    free := ["__new__"] },
  { name := "UnicodeDecodeError"
    ancestors := ["UnicodeError", "ValueError", "Exception", "BaseException", "object"]
    operators := ["__str__", "__init__"]
    slots := ["encoding", "object", "start", "end", "reason"]
    free := ["__new__"] },
  { name := "RecursionError"
    ancestors := ["RuntimeError", "Exception", "BaseException", "object"]
    operators := ["__init__"]
    free := ["__new__"] },
  { name := "CancelledError"
    home := "asyncio.exceptions"
    ancestors := ["BaseException", "object"]
    computed := ["__weakref__"]
    constants := ["__module__"] },
  { name := "FrozenError"
    home := "attr.exceptions"
    ancestors := ["AttributeError", "Exception", "BaseException", "object"]
    computed := ["__weakref__"]
    constants := ["__module__", "msg", "args"] },
  { name := "FrozenInstanceError"
    home := "attr.exceptions"
    ancestors := ["FrozenError", "AttributeError", "Exception", "BaseException", "object"]
    constants := ["__module__"] },
  { name := "InvalidSpecError"
    home := "unittest.mock"
    ancestors := ["Exception", "BaseException", "object"]
    computed := ["__weakref__"]
    constants := ["__module__"] },
  { name := "Cancelled"
    home := "effectwire._cancel"
    ancestors := ["Exception", "BaseException", "object"]
    written := ["__repr__", "__init__"]
    computed := ["__weakref__"]
    constants := ["__module__", "__match_args__"] },
  { name := "ServiceNotProvided"
    home := "effectwire._environment"
    ancestors := ["Exception", "BaseException", "object"]
    written := ["__init__", "__str__"]
    computed := ["__weakref__"]
    constants := ["__module__", "retryable"] },
  { name := "NotSynchronousError"
    home := "effectwire._sync"
    ancestors := ["Exception", "BaseException", "object"]
    computed := ["__weakref__"]
    constants := ["__module__"] },
  { name := "ResolutionTypeError"
    home := "effectwire._program"
    ancestors := ["TypeError", "Exception", "BaseException", "object"]
    written := ["__init__"]
    computed := ["__weakref__"]
    constants := ["__module__"] },
  { name := "SubKeyError"
    home := "__main__"
    ancestors := ["KeyError", "LookupError", "Exception", "BaseException", "object"]
    computed := ["__weakref__"]
    constants := ["__module__"] }]

end Provision.Script
