import Provision.Script.Class.Basic

/-!
The classes of functions and methods, and of whatever can be resumed.
-/

namespace Provision.Script

/-- The classes of functions, methods and suspended computations. -/
def programClasses : List ClassInfo := [
  { name := "function"
    ancestors := ["object"]
    operators := ["__repr__", "__call__", "__get__"]
    computed := ["__code__", "__defaults__", "__kwdefaults__", "__annotations__", "__dict__",
      "__name__", "__qualname__"]
    slots := ["__closure__", "__doc__", "__globals__", "__module__", "__builtins__"]
    free := ["__new__"] },
  { name := "method"
    ancestors := ["object"]
    operators := ["__repr__", "__hash__", "__call__", "__getattribute__", "__setattr__",
      "__delattr__", "__lt__", "__le__", "__eq__", "__ne__", "__gt__", "__ge__"]
    builtIns := ["__reduce__"]
    computed := ["__doc__"]
    slots := ["__func__", "__self__"]
    free := ["__new__"] },
  { name := "builtin_function_or_method"
    ancestors := ["object"]
    operators := ["__repr__", "__hash__", "__call__", "__getattribute__", "__lt__", "__le__",
      "__eq__", "__ne__", "__gt__", "__ge__"]
    builtIns := ["__reduce__"]
    computed := ["__doc__", "__name__", "__qualname__", "__self__", "__text_signature__"]
    slots := ["__module__"] },
  { name := "method-wrapper"
    ancestors := ["object"]
    operators := ["__repr__", "__hash__", "__call__", "__getattribute__", "__lt__", "__le__",
      "__eq__", "__ne__", "__gt__", "__ge__"]
    builtIns := ["__reduce__"]
    computed := ["__objclass__", "__name__", "__qualname__", "__doc__", "__text_signature__"]
    slots := ["__self__"] },
  { name := "wrapper_descriptor"
    ancestors := ["object"]
    operators := ["__repr__", "__call__", "__getattribute__", "__get__"]
    builtIns := ["__reduce__"]
    computed := ["__doc__", "__qualname__", "__text_signature__"]
    slots := ["__objclass__", "__name__"] },
  { name := "method_descriptor"
    ancestors := ["object"]
    operators := ["__repr__", "__call__", "__getattribute__", "__get__"]
    builtIns := ["__reduce__"]
    computed := ["__doc__", "__qualname__", "__text_signature__"]
    slots := ["__objclass__", "__name__"] },
  { name := "getset_descriptor"
    ancestors := ["object"]
    operators := ["__repr__", "__getattribute__", "__get__", "__set__", "__delete__"]
    computed := ["__doc__", "__qualname__"]
    slots := ["__objclass__", "__name__"] },
  { name := "member_descriptor"
    ancestors := ["object"]
    operators := ["__repr__", "__getattribute__", "__get__", "__set__", "__delete__"]
    builtIns := ["__reduce__"]
    computed := ["__doc__", "__qualname__"]
    slots := ["__objclass__", "__name__"] },
  { name := "classmethod_descriptor"
    ancestors := ["object"]
    operators := ["__repr__", "__call__", "__getattribute__", "__get__"]
    computed := ["__doc__", "__qualname__", "__text_signature__"]
    slots := ["__objclass__", "__name__"] },
  { name := "partial"
    home := "functools"
    ancestors := ["object"]
    operators := ["__repr__", "__call__", "__getattribute__", "__setattr__", "__delattr__"]
    builtIns := ["__reduce__", "__setstate__"]
    computed := ["__dict__"]
    slots := ["func", "args", "keywords", "__vectorcalloffset__"]
    ofClass := ["__class_getitem__"]
    free := ["__new__"]
    constants := ["__module__"] },
  { name := "generator"
    ancestors := ["object"]
    operators := ["__repr__", "__getattribute__", "__iter__", "__next__", "__del__"]
    builtIns := ["send", "throw", "close", "__sizeof__"]
    computed := ["__name__", "__qualname__", "gi_yieldfrom", "gi_running", "gi_frame",
      "gi_suspended"]
    slots := ["gi_code"] },
  { name := "coroutine"
    ancestors := ["object"]
    operators := ["__repr__", "__getattribute__", "__del__", "__await__"]
    builtIns := ["send", "throw", "close", "__sizeof__"]
    computed := ["__name__", "__qualname__", "cr_await", "cr_running", "cr_frame", "cr_suspended"]
    slots := ["cr_code", "cr_origin"] },
  { name := "async_generator"
    ancestors := ["object"]
    operators := ["__repr__", "__getattribute__", "__del__", "__aiter__", "__anext__"]
    builtIns := ["asend", "athrow", "aclose", "__sizeof__"]
    computed := ["__name__", "__qualname__", "ag_await", "ag_frame"]
    slots := ["ag_running", "ag_code"]
    ofClass := ["__class_getitem__"] },
  { name := "async_generator_asend"
    ancestors := ["object"]
    operators := ["__getattribute__", "__iter__", "__next__", "__await__"]
    builtIns := ["send", "throw", "close"] },
  { name := "async_generator_athrow"
    ancestors := ["object"]
    operators := ["__getattribute__", "__iter__", "__next__", "__await__"]
    builtIns := ["send", "throw", "close"] },
  { name := "coroutine_wrapper"
    ancestors := ["object"]
    operators := ["__getattribute__", "__iter__", "__next__"]
    builtIns := ["send", "throw", "close"] },
  { name := "code"
    ancestors := ["object"] },
  { name := "frame"
    ancestors := ["object"] },
  { name := "traceback"
    ancestors := ["object"] },
  { name := "property"
    ancestors := ["object"] },
  { name := "staticmethod"
    ancestors := ["object"] },
  { name := "classmethod"
    ancestors := ["object"] }]

end Provision.Script
