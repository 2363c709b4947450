import MetricPaths.Template.Datum

/-! Which attributes values have. Those that begin with a low line are out of reach
of a template, but it matters that they are there. -/
namespace MetricPaths
namespace Template
namespace Attributes

def common : List String :=
  ["__class__", "__delattr__", "__dir__", "__doc__", "__eq__", "__format__", "__ge__",
    "__getattribute__", "__getstate__", "__gt__", "__hash__", "__init__", "__init_subclass__",
    "__le__", "__lt__", "__ne__", "__new__", "__reduce__", "__reduce_ex__", "__repr__",
    "__setattr__", "__sizeof__", "__str__", "__subclasshook__"]

def ofText : List String :=
  ["__add__", "__contains__", "__getitem__", "__getnewargs__", "__iter__", "__len__", "__mod__",
    "__mul__", "__rmod__", "__rmul__", "capitalize", "casefold", "center", "count", "encode",
    "endswith", "expandtabs", "find", "format", "format_map", "index", "isalnum", "isalpha",
    "isascii", "isdecimal", "isdigit", "isidentifier", "islower", "isnumeric", "isprintable",
    "isspace", "istitle", "isupper", "join", "ljust", "lower", "lstrip", "maketrans",
    "partition", "removeprefix", "removesuffix", "replace", "rfind", "rindex", "rjust",
    "rpartition", "rsplit", "rstrip", "split", "splitlines", "startswith", "strip", "swapcase",
    "title", "translate", "upper", "zfill"]

def ofSafeText : List String :=
  ["__html__", "__html_format__", "_escape_argument", "__dict__", "__module__", "__radd__",
    "__weakref__", "escape", "striptags", "unescape"]

def ofInt : List String :=
  ["__abs__", "__add__", "__and__", "__bool__", "__ceil__", "__divmod__", "__float__",
    "__floor__", "__floordiv__", "__getnewargs__", "__index__", "__int__", "__invert__",
    "__lshift__", "__mod__", "__mul__", "__neg__", "__or__", "__pos__", "__pow__", "__radd__",
    "__rand__", "__rdivmod__", "__rfloordiv__", "__rlshift__", "__rmod__", "__rmul__", "__ror__",
    "__round__", "__rpow__", "__rrshift__", "__rshift__", "__rsub__", "__rtruediv__", "__rxor__",
    "__sub__", "__truediv__", "__trunc__", "__xor__", "as_integer_ratio", "bit_count",
    "bit_length", "conjugate", "denominator", "from_bytes", "imag", "numerator", "real",
    "to_bytes"]

def ofFloat : List String :=
  ["__abs__", "__add__", "__bool__", "__ceil__", "__divmod__", "__float__", "__floor__",
    "__floordiv__", "__getformat__", "__getnewargs__", "__int__", "__mod__", "__mul__",
    "__neg__", "__pos__", "__pow__", "__radd__", "__rdivmod__", "__rfloordiv__", "__rmod__",
    "__rmul__", "__round__", "__rpow__", "__rsub__", "__rtruediv__", "__sub__", "__truediv__",
    "__trunc__", "as_integer_ratio", "conjugate", "fromhex", "hex", "imag", "is_integer", "real"]

def ofNone : List String :=
  ["__bool__"]

def ofBytes : List String :=
  ["__add__", "__bytes__", "__contains__", "__getitem__", "__getnewargs__", "__iter__",
    "__len__", "__mod__", "__mul__", "__rmod__", "__rmul__", "capitalize", "center", "count",
    "decode", "endswith", "expandtabs", "find", "fromhex", "hex", "index", "isalnum", "isalpha",
    "isascii", "isdigit", "islower", "isspace", "istitle", "isupper", "join", "ljust", "lower",
    "lstrip", "maketrans", "partition", "removeprefix", "removesuffix", "replace", "rfind",
    "rindex", "rjust", "rpartition", "rsplit", "rstrip", "split", "splitlines", "startswith",
    "strip", "swapcase", "title", "translate", "upper", "zfill"]

def ofDay : List String :=
  ["__add__", "__radd__", "__rsub__", "__sub__", "ctime", "day", "fromisocalendar",
    "fromisoformat", "fromordinal", "fromtimestamp", "isocalendar", "isoformat", "isoweekday",
    "max", "min", "month", "replace", "resolution", "strftime", "timetuple", "today",
    "toordinal", "weekday", "year"]

/-- Attributes that moments have besides those of days. -/
def ofMoment : List String :=
  ["astimezone", "combine", "date", "dst", "fold", "hour", "microsecond", "minute", "now",
    "second", "strptime", "time", "timestamp", "timetz", "tzinfo", "tzname", "utcfromtimestamp",
    "utcnow", "utcoffset", "utctimetuple"]

def ofTuple : List String :=
  ["__add__", "__class_getitem__", "__contains__", "__getitem__", "__getnewargs__", "__iter__",
    "__len__", "__mul__", "__rmul__", "count", "index"]

def ofList : List String :=
  ["__add__", "__class_getitem__", "__contains__", "__delitem__", "__getitem__", "__iadd__",
    "__imul__", "__iter__", "__len__", "__mul__", "__reversed__", "__rmul__", "__setitem__",
    "append", "clear", "copy", "count", "extend", "index", "insert", "pop", "remove", "reverse",
    "sort"]

def ofSet : List String :=
  ["__and__", "__class_getitem__", "__contains__", "__iand__", "__ior__", "__isub__", "__iter__",
    "__ixor__", "__len__", "__or__", "__rand__", "__ror__", "__rsub__", "__rxor__", "__sub__",
    "__xor__", "add", "clear", "copy", "difference", "difference_update", "discard",
    "intersection", "intersection_update", "isdisjoint", "issubset", "issuperset", "pop",
    "remove", "symmetric_difference", "symmetric_difference_update", "union", "update"]

def ofDict : List String :=
  ["__class_getitem__", "__contains__", "__delitem__", "__getitem__", "__ior__", "__iter__",
    "__len__", "__or__", "__reversed__", "__ror__", "__setitem__", "clear", "copy", "fromkeys",
    "get", "items", "keys", "pop", "popitem", "setdefault", "update", "values"]

def ofView : List String :=
  ["__class_getitem__", "__contains__", "__getitem__", "__ior__", "__iter__", "__len__",
    "__or__", "__reversed__", "__ror__", "copy", "get", "items", "keys", "values"]

def ofRange : List String :=
  ["__bool__", "__contains__", "__getitem__", "__iter__", "__len__", "__reversed__", "count",
    "index", "start", "step", "stop"]

def ofMissing : List String :=
  ["__add__", "__aiter__", "__bool__", "__call__", "__complex__", "__contains__", "__div__",
    "__float__", "__floordiv__", "__getattr__", "__getitem__", "__int__", "__iter__", "__len__",
    "__mod__", "__module__", "__mul__", "__neg__", "__pos__", "__pow__", "__radd__", "__rdiv__",
    "__repr__", "__rfloordiv__", "__rmod__", "__rmul__", "__rpow__", "__rsub__",
    "__rtruediv__", "__slots__", "__sub__", "__truediv__", "_fail_with_undefined_error",
    "_undefined_exception", "_undefined_hint", "_undefined_message", "_undefined_name",
    "_undefined_obj"]

def own : Datum → List String
  | .missing _ => ofMissing
  | .str _ false => ofText
  | .str _ true => ofText ++ ofSafeText
  | .bool _ | .int _ => ofInt
  | .float _ => ofFloat
  | .none => ofNone
  | .bytes _ => ofBytes
  | .day _ => ofDay
  | .moment _ => ofDay ++ ofMoment
  | .tuple _ => ofTuple
  | .list _ => ofList
  | .set _ => ofSet
  | .dict _ => ofDict
  | .view _ => ofView
  | .range _ _ _ => ofRange
  | _ => []

def has (d : Datum) (name : String) : Bool := common.contains name || (own d).contains name

def isGuarded (name : String) : Bool := name.toList.head? = some '_'

end Attributes
end Template
end MetricPaths
