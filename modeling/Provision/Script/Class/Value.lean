import Provision.Script.Class.Basic

/-!
The classes of scalars and of collections, of what goes through them, and the most general
classes.
-/

namespace Provision.Script

/-- The classes of scalars and collections. -/
def valueClasses : List ClassInfo := [
  { name := "object"
    ancestors := []
    operators := ["__repr__", "__hash__", "__str__", "__getattribute__", "__setattr__",
      "__delattr__", "__lt__", "__le__", "__eq__", "__ne__", "__gt__", "__ge__", "__init__"]
    builtIns := ["__reduce_ex__", "__reduce__", "__getstate__", "__format__", "__sizeof__",
      "__dir__"]
    computed := ["__class__"]
    ofClass := ["__subclasshook__", "__init_subclass__"]
    free := ["__new__"] },
  { name := "type"
    ancestors := ["object"]
    operators := ["__repr__", "__call__", "__getattribute__", "__setattr__", "__delattr__",
      "__init__", "__or__", "__ror__"]
    builtIns := ["mro", "__subclasses__", "__instancecheck__", "__subclasscheck__", "__dir__",
      "__sizeof__"]
    computed := ["__name__", "__qualname__", "__bases__", "__module__", "__abstractmethods__",
      "__dict__", "__doc__", "__text_signature__", "__annotations__"]
    slots := ["__basicsize__", "__itemsize__", "__flags__", "__weakrefoffset__", "__base__",
      "__dictoffset__", "__mro__"]
    ofClass := ["__prepare__"]
    free := ["__new__"] },
  { name := "slice"
    ancestors := ["object"]
    operators := ["__repr__", "__getattribute__", "__lt__", "__le__", "__eq__", "__ne__", "__gt__",
      "__ge__"]
    builtIns := ["indices", "__reduce__"]
    slots := ["start", "stop", "step"]
    constants := ["__hash__"]
    free := ["__new__"] },
  { name := "NoneType"
    ancestors := ["object"]
    operators := ["__repr__", "__bool__"]
    free := ["__new__"] },
  { name := "bool"
    ancestors := ["int", "object"]
    operators := ["__repr__", "__and__", "__rand__", "__xor__", "__rxor__", "__or__", "__ror__"]
    free := ["__new__"] },
  { name := "int"
    ancestors := ["object"]
    operators := ["__repr__", "__hash__", "__getattribute__", "__lt__", "__le__", "__eq__",
      "__ne__", "__gt__", "__ge__", "__add__", "__radd__", "__sub__", "__rsub__", "__mul__",
      "__rmul__", "__mod__", "__rmod__", "__divmod__", "__rdivmod__", "__pow__", "__rpow__",
      "__neg__", "__pos__", "__abs__", "__bool__", "__invert__", "__lshift__", "__rlshift__",
      "__rshift__", "__rrshift__", "__and__", "__rand__", "__xor__", "__rxor__", "__or__",
      "__ror__", "__int__", "__float__", "__floordiv__", "__rfloordiv__", "__truediv__",
      "__rtruediv__", "__index__"]
    builtIns := ["conjugate", "bit_length", "bit_count", "to_bytes", "as_integer_ratio",
      "__trunc__", "__floor__", "__ceil__", "__round__", "__getnewargs__", "__format__",
      "__sizeof__"]
    computed := ["real", "imag", "numerator", "denominator"]
    ofClass := ["from_bytes"]
    free := ["__new__"] },
  { name := "str"
    ancestors := ["object"]
    operators := ["__repr__", "__hash__", "__str__", "__getattribute__", "__lt__", "__le__",
      "__eq__", "__ne__", "__gt__", "__ge__", "__iter__", "__mod__", "__rmod__", "__len__",
      "__getitem__", "__add__", "__mul__", "__rmul__", "__contains__"]
    builtIns := ["encode", "replace", "split", "rsplit", "join", "capitalize", "casefold",
      "title", "center", "count", "expandtabs", "find", "partition", "index", "ljust", "lower",
      "lstrip", "rfind", "rindex", "rjust", "rstrip", "rpartition", "splitlines", "strip",
      "swapcase", "translate", "upper", "startswith", "endswith", "removeprefix", "removesuffix",
      "isascii", "islower", "isupper", "istitle", "isspace", "isdecimal", "isdigit", "isnumeric",
      "isalpha", "isalnum", "isidentifier", "isprintable", "zfill", "format", "format_map",
      "__format__", "__sizeof__", "__getnewargs__"]
    free := ["__new__", "maketrans"] },
  { name := "bytes"
    ancestors := ["object"]
    operators := ["__repr__", "__hash__", "__str__", "__getattribute__", "__lt__", "__le__",
      "__eq__", "__ne__", "__gt__", "__ge__", "__iter__", "__mod__", "__rmod__", "__len__",
      "__getitem__", "__add__", "__mul__", "__rmul__", "__contains__"]
    builtIns := ["__getnewargs__", "__bytes__", "capitalize", "center", "count", "decode",
      "endswith", "expandtabs", "find", "hex", "index", "isalnum", "isalpha", "isascii",
      "isdigit", "islower", "isspace", "istitle", "isupper", "join", "ljust", "lower", "lstrip",
      "partition", "replace", "removeprefix", "removesuffix", "rfind", "rindex", "rjust",
      "rpartition", "rsplit", "rstrip", "split", "splitlines", "startswith", "strip", "swapcase",
      "title", "translate", "upper", "zfill"]
    ofClass := ["fromhex"]
    free := ["__new__", "maketrans"] },
  { name := "list"
    ancestors := ["object"]
    operators := ["__repr__", "__getattribute__", "__lt__", "__le__", "__eq__", "__ne__",
      "__gt__", "__ge__", "__iter__", "__init__", "__len__", "__setitem__", "__delitem__",
      "__add__", "__mul__", "__rmul__", "__contains__", "__iadd__", "__imul__"]
    builtIns := ["__getitem__", "__reversed__", "__sizeof__", "clear", "copy", "append", "insert",
      "extend", "pop", "remove", "index", "count", "reverse", "sort"]
    ofClass := ["__class_getitem__"]
    free := ["__new__"]
    constants := ["__hash__"] },
  { name := "tuple"
    ancestors := ["object"]
    operators := ["__repr__", "__hash__", "__getattribute__", "__lt__", "__le__", "__eq__",
      "__ne__", "__gt__", "__ge__", "__iter__", "__len__", "__getitem__", "__add__", "__mul__",
      "__rmul__", "__contains__"]
    builtIns := ["__getnewargs__", "index", "count"]
    ofClass := ["__class_getitem__"]
    free := ["__new__"] },
  { name := "dict"
    ancestors := ["object"]
    operators := ["__repr__", "__getattribute__", "__lt__", "__le__", "__eq__", "__ne__",
      "__gt__", "__ge__", "__iter__", "__init__", "__or__", "__ror__", "__ior__", "__len__",
      "__setitem__", "__delitem__"]
    builtIns := ["__getitem__", "__contains__", "__sizeof__", "get", "setdefault", "pop",
      "popitem", "keys", "items", "values", "update", "clear", "copy", "__reversed__"]
    ofClass := ["fromkeys", "__class_getitem__"]
    free := ["__new__"]
    constants := ["__hash__"] },
  { name := "set"
    ancestors := ["object"]
    operators := ["__repr__", "__getattribute__", "__lt__", "__le__", "__eq__", "__ne__",
      "__gt__", "__ge__", "__iter__", "__init__", "__sub__", "__rsub__", "__and__", "__rand__",
      "__xor__", "__rxor__", "__or__", "__ror__", "__isub__", "__iand__", "__ixor__", "__ior__",
      "__len__"]
    builtIns := ["__contains__", "add", "clear", "copy", "discard", "difference",
      "difference_update", "intersection", "intersection_update", "isdisjoint", "issubset",
      "issuperset", "pop", "__reduce__", "remove", "__sizeof__", "symmetric_difference",
      "symmetric_difference_update", "union", "update"]
    ofClass := ["__class_getitem__"]
    free := ["__new__"]
    constants := ["__hash__"] },
  { name := "frozenset"
    ancestors := ["object"]
    operators := ["__repr__", "__hash__", "__getattribute__", "__lt__", "__le__", "__eq__",
      "__ne__", "__gt__", "__ge__", "__iter__", "__sub__", "__rsub__", "__and__", "__rand__",
      "__xor__", "__rxor__", "__or__", "__ror__", "__len__"]
    builtIns := ["__contains__", "copy", "difference", "intersection", "isdisjoint", "issubset",
      "issuperset", "__reduce__", "__sizeof__", "symmetric_difference", "union"]
    ofClass := ["__class_getitem__"]
    free := ["__new__"] },
  { name := "mappingproxy"
    ancestors := ["object"]
    operators := ["__repr__", "__str__", "__getattribute__", "__lt__", "__le__", "__eq__",
      "__ne__", "__gt__", "__ge__", "__iter__", "__or__", "__ror__", "__ior__", "__len__",
      "__getitem__", "__contains__"]
    builtIns := ["get", "keys", "values", "items", "copy", "__reversed__"]
    ofClass := ["__class_getitem__"]
    free := ["__new__"]
    constants := ["__hash__"] },
  { name := "dict_keys"
    ancestors := ["object"]
    operators := ["__repr__", "__getattribute__", "__lt__", "__le__", "__eq__", "__ne__",
      "__gt__", "__ge__", "__iter__", "__sub__", "__rsub__", "__and__", "__rand__", "__xor__",
      "__rxor__", "__or__", "__ror__", "__len__", "__contains__"]
    builtIns := ["isdisjoint", "__reversed__"]
    computed := ["mapping"]
    constants := ["__hash__"] },
  { name := "dict_values"
    ancestors := ["object"]
    operators := ["__repr__", "__getattribute__", "__iter__", "__len__"]
    builtIns := ["__reversed__"]
    computed := ["mapping"] },
  { name := "dict_items"
    ancestors := ["object"]
    operators := ["__repr__", "__getattribute__", "__lt__", "__le__", "__eq__", "__ne__",
      "__gt__", "__ge__", "__iter__", "__sub__", "__rsub__", "__and__", "__rand__", "__xor__",
      "__rxor__", "__or__", "__ror__", "__len__", "__contains__"]
    builtIns := ["isdisjoint", "__reversed__"]
    computed := ["mapping"]
    constants := ["__hash__"] },
  { name := "list_iterator"
    ancestors := ["object"]
    operators := ["__getattribute__", "__iter__", "__next__"]
    builtIns := ["__length_hint__", "__reduce__", "__setstate__"] },
  { name := "list_reverseiterator"
    ancestors := ["object"]
    operators := ["__getattribute__", "__iter__", "__next__"]
    builtIns := ["__length_hint__", "__reduce__", "__setstate__"] },
  { name := "tuple_iterator"
    ancestors := ["object"]
    operators := ["__getattribute__", "__iter__", "__next__"]
    builtIns := ["__length_hint__", "__reduce__", "__setstate__"] },
  { name := "str_iterator"
    ancestors := ["object"]
    operators := ["__getattribute__", "__iter__", "__next__"]
    builtIns := ["__length_hint__", "__reduce__", "__setstate__"] },
  { name := "str_ascii_iterator"
    ancestors := ["object"]
    operators := ["__getattribute__", "__iter__", "__next__"]
    builtIns := ["__length_hint__", "__reduce__", "__setstate__"] },
  { name := "dict_keyiterator"
    ancestors := ["object"]
    operators := ["__getattribute__", "__iter__", "__next__"]
    builtIns := ["__length_hint__", "__reduce__"] },
  { name := "dict_valueiterator"
    ancestors := ["object"]
    operators := ["__getattribute__", "__iter__", "__next__"]
    builtIns := ["__length_hint__", "__reduce__"] },
  { name := "dict_itemiterator"
    ancestors := ["object"]
    operators := ["__getattribute__", "__iter__", "__next__"]
    builtIns := ["__length_hint__", "__reduce__"] },
  { name := "dict_reversekeyiterator"
    ancestors := ["object"]
    operators := ["__iter__", "__next__"]
    builtIns := ["__length_hint__", "__reduce__"] },
  { name := "dict_reversevalueiterator"
    ancestors := ["object"]
    operators := ["__iter__", "__next__"]
    builtIns := ["__length_hint__", "__reduce__"] },
  { name := "dict_reverseitemiterator"
    ancestors := ["object"]
    operators := ["__iter__", "__next__"]
    builtIns := ["__length_hint__", "__reduce__"] },
  { name := "set_iterator"
    ancestors := ["object"]
    operators := ["__getattribute__", "__iter__", "__next__"]
    builtIns := ["__length_hint__", "__reduce__"] },
  { name := "bytes_iterator"
    ancestors := ["object"]
    operators := ["__getattribute__", "__iter__", "__next__"]
    builtIns := ["__length_hint__", "__reduce__", "__setstate__"] },
  { name := "reversed"
    ancestors := ["object"]
    operators := ["__getattribute__", "__iter__", "__next__"]
    builtIns := ["__length_hint__", "__reduce__", "__setstate__"]
    free := ["__new__"] },
  { name := "iterator"
    ancestors := ["object"]
    operators := ["__getattribute__", "__iter__", "__next__"]
    builtIns := ["__length_hint__", "__reduce__", "__setstate__"] },
  { name := "SimpleNamespace"
    home := "types"
    ancestors := ["object"]
    operators := ["__repr__", "__getattribute__", "__setattr__", "__delattr__", "__lt__",
      "__le__", "__eq__", "__ne__", "__gt__", "__ge__", "__init__"]
    builtIns := ["__reduce__"]
    slots := ["__dict__"]
    free := ["__new__"]
    constants := ["__hash__"] },
  { name := "NotImplementedType"
    ancestors := ["object"]
    operators := ["__repr__", "__bool__"]
    builtIns := ["__reduce__"]
    free := ["__new__"] }]

end Provision.Script
