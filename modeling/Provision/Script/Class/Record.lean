import Provision.Script.Class.Basic

/-!
The classes of the library's records, of views of mappings, of guards and of stand-ins.
-/

namespace Provision.Script

/-- The classes of records, guards and stand-ins. -/
def recordClasses : List ClassInfo := [
  { name := "Token"
    home := "effectwire._token"
    ancestors := ["object"]
    written := ["__iter__", "make", "provide", "__setattr__", "__delattr__", "__repr__", "__eq__",
      "__ne__", "__lt__", "__le__", "__gt__", "__ge__", "__hash__", "__init__"]
    computed := ["__dict__", "__weakref__"]
    constants := ["__module__", "__match_args__"] },
  { name := "Done"
    home := "effectwire._program"
    ancestors := ["object"]
    written := ["__repr__", "__eq__", "__ne__", "__lt__", "__le__", "__gt__", "__ge__",
      "__init__"]
    computed := ["__dict__", "__weakref__"]
    constants := ["__module__", "__hash__", "__match_args__"] },
  { name := "Completed"
    home := "effectwire.testing"
    ancestors := ["object"]
    written := ["__repr__", "__eq__", "__ne__", "__lt__", "__le__", "__gt__", "__ge__",
      "__init__"]
    computed := ["__dict__", "__weakref__"]
    constants := ["__module__", "__hash__", "__match_args__"] },
  { name := "SequenceEnvironment"
    home := "effectwire.testing"
    ancestors := ["object"]
    written := ["__getitem__", "consumed", "consume", "composed_with", "__repr__", "__eq__",
      "__ne__", "__lt__", "__le__", "__gt__", "__ge__", "__init__"]
    computed := ["__dict__", "__weakref__"]
    constants := ["__module__", "__hash__", "__match_args__"] },
  { name := "Runtime"
    home := "effectwire.runtime"
    ancestors := ["object"]
    written := ["environment_for", "run", "run_sync", "extend", "__setattr__", "__delattr__",
      "__repr__", "__eq__", "__ne__", "__lt__", "__le__", "__gt__", "__ge__", "__hash__",
      "__init__"]
    computed := ["__dict__", "__weakref__"]
    constants := ["__module__", "__match_args__"] },
  { name := "ServiceProgram"
    home := "effectwire.runtime"
    ancestors := ["object"]
    written := ["tokens", "with_args", "_start", "run", "run_sync", "__setattr__", "__delattr__",
      "__repr__", "__eq__", "__ne__", "__lt__", "__le__", "__gt__", "__ge__", "__hash__",
      "__init__"]
    computed := ["__dict__", "__weakref__"]
    constants := ["__module__", "__match_args__"] },
  { name := "Cancellation"
    home := "effectwire._cancel"
    ancestors := ["object"]
    written := ["__init__", "cancel", "error", "raise_if_cancelled", "__repr__"]
    computed := ["__dict__", "__weakref__"]
    constants := ["__module__"] },
  { name := "ComposedEnvironment"
    home := "effectwire._environment"
    ancestors := ["Mapping", "Collection", "Sized", "Iterable", "Container", "object"]
    metaclass := "ABCMeta"
    written := ["__getitem__", "__iter__", "__len__", "__repr__", "__eq__", "__ne__", "__lt__",
      "__le__", "__gt__", "__ge__", "__init__"]
    computed := ["__dict__", "__weakref__"]
    constants := ["__module__", "__hash__", "__match_args__"] },
  { name := "SubToken"
    home := "__main__"
    ancestors := ["Token", "object"]
    written := ["send", "throw", "close", "__next__"]
    constants := ["__module__"] },
  { name := "SubDone"
    home := "__main__"
    ancestors := ["Done", "object"]
    constants := ["__module__"] },
  { name := "Obj"
    home := "__main__"
    ancestors := ["object"]
    written := ["__init__", "__repr__"]
    computed := ["__dict__", "__weakref__"]
    constants := ["__module__"] },
  { name := "Duck"
    home := "__main__"
    ancestors := ["object"]
    written := ["__init__", "__repr__"]
    computed := ["__dict__", "__weakref__"]
    constants := ["__module__"] },
  { name := "LookupEnv"
    home := "__main__"
    ancestors := ["object"]
    written := ["__init__", "__getitem__", "__repr__"]
    computed := ["__dict__", "__weakref__"]
    constants := ["__module__"] },
  { name := "Recording"
    home := "__main__"
    ancestors := ["object"]
    written := ["__init__", "__getitem__", "__repr__"]
    computed := ["__dict__", "__weakref__"]
    constants := ["__module__"] },
  { name := "PrintLogger"
    home := "examples.registration"
    ancestors := ["object"]
    written := ["info"]
    computed := ["__dict__", "__weakref__"]
    constants := ["__module__"] },
  { name := "MemoryDatabase"
    home := "examples.registration"
    ancestors := ["object"]
    written := ["__init__", "query", "count"]
    computed := ["__dict__", "__weakref__"]
    constants := ["__module__"] },
  { name := "KeysView"
    home := "collections.abc"
    ancestors := ["MappingView", "Set", "Collection", "Sized", "Iterable", "Container", "object"]
    metaclass := "ABCMeta"
    written := ["__contains__", "__iter__"]
    ofClass := ["_from_iterable"]
    constants := ["__module__", "__slots__"] },
  { name := "ValuesView"
    home := "collections.abc"
    ancestors := ["MappingView", "Collection", "Sized", "Iterable", "Container", "object"]
    metaclass := "ABCMeta"
    written := ["__contains__", "__iter__"]
    constants := ["__module__", "__slots__"] },
  { name := "ItemsView"
    home := "collections.abc"
    ancestors := ["MappingView", "Set", "Collection", "Sized", "Iterable", "Container", "object"]
    metaclass := "ABCMeta"
    written := ["__contains__", "__iter__"]
    ofClass := ["_from_iterable"]
    constants := ["__module__", "__slots__"] },
  { name := "MappingView"
    home := "collections.abc"
    ancestors := ["Sized", "object"]
    metaclass := "ABCMeta"
    written := ["__init__", "__len__", "__repr__"]
    slots := ["_mapping"]
    ofClass := ["__class_getitem__"]
    constants := ["__module__", "__slots__"] },
  { name := "Mapping"
    home := "collections.abc"
    ancestors := ["Collection", "Sized", "Iterable", "Container", "object"]
    metaclass := "ABCMeta"
    written := ["__getitem__", "get", "__contains__", "keys", "items", "values", "__eq__"]
    constants := ["__module__", "__slots__", "__reversed__", "__hash__"] },
  { name := "Collection"
    home := "collections.abc"
    ancestors := ["Sized", "Iterable", "Container", "object"]
    metaclass := "ABCMeta"
    ofClass := ["__subclasshook__"]
    constants := ["__module__", "__slots__"] },
  { name := "Sized"
    home := "collections.abc"
    ancestors := ["object"]
    metaclass := "ABCMeta"
    written := ["__len__"]
    ofClass := ["__subclasshook__"]
    constants := ["__module__", "__slots__"] },
  { name := "Iterable"
    home := "collections.abc"
    ancestors := ["object"]
    metaclass := "ABCMeta"
    written := ["__iter__"]
    ofClass := ["__subclasshook__", "__class_getitem__"]
    constants := ["__module__", "__slots__"] },
  { name := "Container"
    home := "collections.abc"
    ancestors := ["object"]
    metaclass := "ABCMeta"
    written := ["__contains__"]
    ofClass := ["__subclasshook__", "__class_getitem__"]
    constants := ["__module__", "__slots__"] },
  { name := "Set"
    home := "collections.abc"
    ancestors := ["Collection", "Sized", "Iterable", "Container", "object"]
    metaclass := "ABCMeta"
    written := ["__le__", "__lt__", "__gt__", "__ge__", "__eq__", "__and__", "__rand__",
      "isdisjoint", "__or__", "__ror__", "__sub__", "__rsub__", "__xor__", "__rxor__", "_hash"]
    ofClass := ["_from_iterable"]
    constants := ["__module__", "__slots__", "__hash__"] },
  { name := "Reversible"
    home := "collections.abc"
    ancestors := ["Iterable", "object"]
    metaclass := "ABCMeta"
    written := ["__reversed__"]
    ofClass := ["__subclasshook__"]
    constants := ["__module__", "__slots__"] },
  { name := "ABCMeta"
    home := "abc"
    ancestors := ["type", "object"]
    written := ["register", "__instancecheck__", "__subclasscheck__"]
    free := ["__new__"]
    constants := ["__module__"] },
  { name := "Base"
    home := "unittest.mock"
    ancestors := ["object"]
    written := ["__init__"]
    computed := ["__dict__", "__weakref__"]
    constants := ["__module__"] },
  { name := "NonCallableMock"
    home := "unittest.mock"
    ancestors := ["Base", "object"]
    written := ["__init__", "attach_mock", "mock_add_spec", "_mock_add_spec", "reset_mock",
      "configure_mock", "__getattr__", "_extract_mock_name", "__repr__", "__dir__", "__setattr__",
      "__delattr__", "_format_mock_call_signature", "_format_mock_failure_message",
      "_get_call_signature_from_name", "_call_matcher", "assert_not_called", "assert_called",
      "assert_called_once", "assert_called_with", "assert_called_once_with", "assert_has_calls",
      "assert_any_call", "_get_child_mock", "_calls_repr"]
    properties := ["return_value", "__class__", "called", "call_count", "call_args",
      "call_args_list", "mock_calls", "side_effect"]
    free := ["__new__"]
    constants := ["__module__"] },
  { name := "CallableMixin"
    home := "unittest.mock"
    ancestors := ["Base", "object"]
    written := ["__init__", "_mock_check_sig", "__call__", "_mock_call", "_increment_mock_call",
      "_execute_mock_call"]
    constants := ["__module__"] },
  { name := "Mock"
    home := "unittest.mock"
    ancestors := ["CallableMixin", "NonCallableMock", "Base", "object"]
    constants := ["__module__"] },
  { name := "MagicMixin"
    home := "unittest.mock"
    ancestors := ["Base", "object"]
    written := ["__init__", "_mock_set_magics"]
    constants := ["__module__"] },
  { name := "MagicMock"
    home := "unittest.mock"
    ancestors := ["MagicMixin", "Mock", "CallableMixin", "NonCallableMock", "Base", "object"]
    written := ["mock_add_spec"]
    constants := ["__module__"] },
  { name := "AsyncMockMixin"
    home := "unittest.mock"
    ancestors := ["Base", "object"]
    written := ["__init__", "_execute_mock_call", "assert_awaited", "assert_awaited_once",
      "assert_awaited_with", "assert_awaited_once_with", "assert_any_await", "assert_has_awaits",
      "assert_not_awaited", "reset_mock"]
    properties := ["await_count", "await_args", "await_args_list"]
    constants := ["__module__"] },
  { name := "AsyncMagicMixin"
    home := "unittest.mock"
    ancestors := ["MagicMixin", "Base", "object"]
    written := ["__init__"]
    constants := ["__module__"] },
  { name := "AsyncMock"
    home := "unittest.mock"
    ancestors := ["AsyncMockMixin", "AsyncMagicMixin", "MagicMixin", "Mock", "CallableMixin",
      "NonCallableMock", "Base", "object"]
    constants := ["__module__"] },
  { name := "_Call"
    home := "unittest.mock"
    ancestors := ["tuple", "object"]
    operators := ["__ne__"]
    written := ["__init__", "__eq__", "__call__", "__getattr__", "__getattribute__",
      "_get_call_arguments", "__repr__", "call_list"]
    computed := ["__dict__"]
    properties := ["args", "kwargs"]
    free := ["__new__"]
    constants := ["__module__", "__hash__"] },
  { name := "_CallList"
    home := "unittest.mock"
    ancestors := ["list", "object"]
    written := ["__contains__", "__repr__"]
    computed := ["__dict__", "__weakref__"]
    constants := ["__module__"] },
  { name := "_SentinelObject"
    home := "unittest.mock"
    ancestors := ["object"]
    written := ["__init__", "__repr__", "__reduce__"]
    computed := ["__dict__", "__weakref__"]
    constants := ["__module__"] },
  { name := "_GeneratorContextManager"
    home := "contextlib"
    ancestors := ["_GeneratorContextManagerBase", "AbstractContextManager", "ABC",
      "ContextDecorator", "object"]
    metaclass := "ABCMeta"
    written := ["__enter__", "__exit__"]
    constants := ["__module__"] },
  { name := "_GeneratorContextManagerBase"
    home := "contextlib"
    ancestors := ["object"]
    written := ["__init__", "_recreate_cm"]
    computed := ["__dict__", "__weakref__"]
    constants := ["__module__"] },
  { name := "AbstractContextManager"
    home := "contextlib"
    ancestors := ["ABC", "object"]
    metaclass := "ABCMeta"
    written := ["__enter__", "__exit__"]
    computed := ["__dict__", "__weakref__"]
    ofClass := ["__class_getitem__", "__subclasshook__"]
    constants := ["__module__"] },
  { name := "ContextDecorator"
    home := "contextlib"
    ancestors := ["object"]
    written := ["_recreate_cm", "__call__"]
    computed := ["__dict__", "__weakref__"]
    constants := ["__module__"] },
  { name := "ABC"
    home := "abc"
    ancestors := ["object"]
    metaclass := "ABCMeta"
    constants := ["__module__", "__slots__"] }]

end Provision.Script
