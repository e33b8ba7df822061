/-!
# What all classes have

Some attributes belong to every class by its nature, and some to every instance.  Their names begin
with underscores, so no finder can take their place.
-/

namespace NamedQuery.Nature

def ofKind (kind : String) (names : List String) : List (String × String) := names.map (·, kind)

/-- The names of the operations that classes give their instances. -/
def operations : List String :=
  ["__delattr__", "__eq__", "__ge__", "__getattribute__", "__gt__", "__hash__", "__init__",
    "__le__", "__lt__", "__ne__", "__repr__", "__setattr__", "__str__"]

/-- The names of further operations that classes give their instances. -/
def methods : List String :=
  ["__dir__", "__format__", "__getstate__", "__reduce__", "__reduce_ex__", "__sizeof__"]

/-- The names of operations that classes and instances have alike. -/
def common : List String := ["__init_subclass__", "__new__", "__subclasshook__"]

/-- The attributes of classes that are no attributes of their instances, each with its kind. -/
def ofClassAlone : List (String × String) :=
  ofKind "builtin_function_or_method"
      ["__instancecheck__", "__prepare__", "__subclasscheck__", "__subclasses__"] ++
    ofKind "method-wrapper" ["__call__", "__or__", "__ror__"] ++
    ofKind "int"
      ["__basicsize__", "__dictoffset__", "__flags__", "__itemsize__", "__weakrefoffset__"] ++
    ofKind "str" ["__name__", "__qualname__"] ++ ofKind "tuple" ["__bases__", "__mro__"] ++
    [("__text_signature__", "NoneType")]

/-- The attributes that every class has, each with its kind; some are classes themselves and not
among these. -/
def ofClass : List (String × String) :=
  ofKind "wrapper_descriptor" operations ++ ofKind "method_descriptor" methods ++
    ofKind "builtin_function_or_method" common ++ ofClassAlone ++
    [("__annotations__", "dict"), ("__dict__", "mappingproxy"), ("__doc__", "NoneType"),
      ("__module__", "str"), ("__weakref__", "getset_descriptor")]

/-- The attributes that every instance has, each with its kind; its class is not among these. -/
def ofInstance : List (String × String) :=
  ofKind "method-wrapper" operations ++
    ofKind "builtin_function_or_method" (methods ++ common) ++
    [("__annotations__", "dict"), ("__dict__", "dict"), ("__doc__", "NoneType"),
      ("__module__", "str"), ("__weakref__", "NoneType")]

/-- The kinds of attributes of a class that are bound to nothing, not even to an instance. -/
def unbound : List (String × String) :=
  [("__annotations__", "dict"), ("__doc__", "NoneType"), ("__module__", "str"),
    ("__new__", "builtin_function_or_method")]

end NamedQuery.Nature
