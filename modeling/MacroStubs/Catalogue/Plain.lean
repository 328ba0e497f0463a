import MacroStubs.Catalogue.Member

/-! # Plain classes

The classes of the plain values that are no containers, of all objects, of classes and of modules.
-/

namespace MacroStubs.Catalogue
open Member

def noneTypeClass : BuiltinClass where
  name := "NoneType"
  members :=
    [maker] ++
    specials ["__repr__", "__bool__"] ++
    [docText]

def ellipsisClass : BuiltinClass where
  name := "ellipsis"
  members :=
    [maker] ++
    specials ["__repr__", "__getattribute__"] ++
    [method "__reduce__" "" [],
     docText]

def boolClass : BuiltinClass where
  name := "bool"
  base := "int"
  doc := ["bool(x) -> bool", "", "Returns True when the argument x is true, False otherwise.",
          "The builtins True and False are the only two instances of the class bool.",
          "The class bool is a subclass of the class int, and cannot be subclassed."]
  members :=
    [maker] ++
    specials ["__repr__", "__and__", "__rand__", "__xor__", "__rxor__", "__or__", "__ror__"] ++
    [docText]

def intClass : BuiltinClass where
  name := "int"
  doc := ["int([x]) -> integer", "int(x, base=10) -> integer", "",
          "Convert a number or string to an integer, or return 0 if no arguments",
          "are given.  If x is a number, return x.__int__().  For floating point",
          "numbers, this truncates towards zero.", "",
          "If x is not a number or if base is given, then x must be a string,",
          "bytes, or bytearray instance representing an integer literal in the",
          "given base.  The literal can be preceded by '+' or '-' and be surrounded",
          "by whitespace.  The base defaults to 10.  Valid bases are 0 and 2-36.",
          "Base 0 means to interpret the base from the string as an integer literal.",
          ">>> int('0b100', base=0)", "4"]
  members :=
    [maker] ++
    specials ["__repr__", "__hash__", "__getattribute__", "__lt__", "__le__", "__eq__",
      "__ne__", "__gt__", "__ge__", "__add__", "__radd__", "__sub__", "__rsub__",
      "__mul__", "__rmul__", "__mod__", "__rmod__", "__divmod__", "__rdivmod__",
      "__pow__", "__rpow__", "__neg__", "__pos__", "__abs__", "__bool__", "__invert__",
      "__lshift__", "__rlshift__", "__rshift__", "__rrshift__", "__and__", "__rand__",
      "__xor__", "__rxor__", "__or__", "__ror__", "__int__", "__float__",
      "__floordiv__", "__rfloordiv__", "__truediv__", "__rtruediv__", "__index__"] ++
    [method "conjugate" "" ["Returns self, the complex conjugate of any int."],
     method "bit_length" "($self, /)"
      ["Number of bits necessary to represent self in binary.", "", ">>> bin(37)",
        "'0b100101'", ">>> (37).bit_length()", "6"],
     method "bit_count" "($self, /)"
      ["Number of ones in the binary representation of the absolute value of self.", "",
        "Also known as the population count.", "", ">>> bin(13)", "'0b1101'",
        ">>> (13).bit_count()", "3"],
     method "to_bytes" "($self, /, length=1, byteorder='big', *, signed=False)"
      ["Return an array of bytes representing an integer.", "", "  length",
        "    Length of bytes object to use.  An OverflowError is raised if the",
        "    integer is not representable with the given number of bytes.  Default",
        "    is length 1.", "  byteorder",
        "    The byte order used to represent the integer.  If byteorder is 'big',",
        "    the most significant byte is at the beginning of the byte array.  If",
        "    byteorder is 'little', the most significant byte is at the end of the",
        "    byte array.  To request the native byte order of the host system, use",
        "    `sys.byteorder' as the byte order value.  Default is to use 'big'.", "  signed",
        "    Determines whether two's complement is used to represent the integer.",
        "    If signed is False and a negative integer is given, an OverflowError",
        "    is raised."],
     classMethod "from_bytes" "($type, /, bytes, byteorder='big', *, signed=False)"
      ["Return the integer represented by the given array of bytes.", "", "  bytes",
        "    Holds the array of bytes to convert.  The argument must either",
        "    support the buffer protocol or be an iterable object producing bytes.",
        "    Bytes and bytearray are examples of built-in objects that support the",
        "    buffer protocol.", "  byteorder",
        "    The byte order used to represent the integer.  If byteorder is 'big',",
        "    the most significant byte is at the beginning of the byte array.  If",
        "    byteorder is 'little', the most significant byte is at the end of the",
        "    byte array.  To request the native byte order of the host system, use",
        "    `sys.byteorder' as the byte order value.  Default is to use 'big'.", "  signed",
        "    Indicates whether two's complement is used to represent the integer."],
     method "as_integer_ratio" "($self, /)"
      ["Return integer ratio.", "",
        "Return a pair of integers, whose ratio is exactly equal to the original int",
        "and with a positive denominator.", "", ">>> (10).as_integer_ratio()", "(10, 1)",
        ">>> (-10).as_integer_ratio()", "(-10, 1)", ">>> (0).as_integer_ratio()", "(0, 1)"],
     method "__trunc__" "" ["Truncating an Integral returns itself."],
     method "__floor__" "" ["Flooring an Integral returns itself."],
     method "__ceil__" "" ["Ceiling of an Integral returns itself."],
     method "__round__" "($self, ndigits=<unrepresentable>, /)"
      ["Rounding an Integral returns itself.", "",
        "Rounding with an ndigits argument also returns an integer."],
     method "__getnewargs__" "($self, /)" [],
     method "__format__" "($self, format_spec, /)" [],
     method "__sizeof__" "($self, /)" ["Returns size in memory, in bytes."],
     computed "real" ["the real part of a complex number"],
     computed "imag" ["the imaginary part of a complex number"],
     computed "numerator" ["the numerator of a rational number in lowest terms"],
     computed "denominator" ["the denominator of a rational number in lowest terms"],
     docText]

def floatClass : BuiltinClass where
  name := "float"
  signature := "(x=0, /)"
  doc := ["Convert a string or number to a floating point number, if possible."]
  members :=
    [maker] ++
    specials ["__repr__", "__hash__", "__getattribute__", "__lt__", "__le__", "__eq__",
      "__ne__", "__gt__", "__ge__", "__add__", "__radd__", "__sub__", "__rsub__",
      "__mul__", "__rmul__", "__mod__", "__rmod__", "__divmod__", "__rdivmod__",
      "__pow__", "__rpow__", "__neg__", "__pos__", "__abs__", "__bool__", "__int__",
      "__float__", "__floordiv__", "__rfloordiv__", "__truediv__", "__rtruediv__"] ++
    [method "conjugate" "($self, /)" ["Return self, the complex conjugate of any float."],
     method "__trunc__" "($self, /)" ["Return the Integral closest to x between 0 and x."],
     method "__floor__" "($self, /)" ["Return the floor as an Integral."],
     method "__ceil__" "($self, /)" ["Return the ceiling as an Integral."],
     method "__round__" "($self, ndigits=None, /)"
      ["Return the Integral closest to x, rounding half toward even.", "",
        "When an argument is passed, work like built-in round(x, ndigits)."],
     method "as_integer_ratio" "($self, /)"
      ["Return integer ratio.", "",
        "Return a pair of integers, whose ratio is exactly equal to the original float",
        "and with a positive denominator.", "",
        "Raise OverflowError on infinities and a ValueError on NaNs.", "",
        ">>> (10.0).as_integer_ratio()", "(10, 1)", ">>> (0.0).as_integer_ratio()", "(0, 1)",
        ">>> (-.25).as_integer_ratio()", "(-1, 4)"],
     classMethod "fromhex" "($type, string, /)"
      ["Create a floating-point number from a hexadecimal string.", "",
        ">>> float.fromhex('0x1.ffffp10')", "2047.984375", ">>> float.fromhex('-0x1p-1074')",
        "-5e-324"],
     method "hex" "($self, /)"
      ["Return a hexadecimal representation of a floating-point number.", "",
        ">>> (-0.1).hex()", "'-0x1.999999999999ap-4'", ">>> 3.14159.hex()",
        "'0x1.921f9f01b866ep+1'"],
     method "is_integer" "($self, /)" ["Return True if the float is an integer."],
     method "__getnewargs__" "($self, /)" [],
     classMethod "__getformat__" "($type, typestr, /)"
      ["You probably don't want to use this function.", "", "  typestr",
        "    Must be 'double' or 'float'.", "",
        "It exists mainly to be used in Python's test suite.", "",
        "This function returns whichever of 'unknown', 'IEEE, big-endian' or 'IEEE,",
        "little-endian' best describes the format of floating point numbers used by the",
        "C type named by typestr."],
     method "__format__" "($self, format_spec, /)"
      ["Formats the float according to format_spec."],
     computed "real" ["the real part of a complex number"],
     computed "imag" ["the imaginary part of a complex number"],
     docText]

def complexClass : BuiltinClass where
  name := "complex"
  signature := "(real=0, imag=0)"
  doc := ["Create a complex number from a real part and an optional imaginary part.", "",
          "This is equivalent to (real + imag*1j) where imag defaults to 0."]
  members :=
    [maker] ++
    specials ["__repr__", "__hash__", "__getattribute__", "__lt__", "__le__", "__eq__",
      "__ne__", "__gt__", "__ge__", "__add__", "__radd__", "__sub__", "__rsub__",
      "__mul__", "__rmul__", "__pow__", "__rpow__", "__neg__", "__pos__", "__abs__",
      "__bool__", "__truediv__", "__rtruediv__"] ++
    [method "conjugate" "($self, /)"
      ["Return the complex conjugate of its argument. (3-4j).conjugate() == 3+4j."],
     method "__complex__" "($self, /)" ["Convert this value to exact type complex."],
     method "__getnewargs__" "($self, /)" [],
     method "__format__" "($self, format_spec, /)"
      ["Convert to a string according to format_spec."],
     field "real" ["the real part of a complex number"],
     field "imag" ["the imaginary part of a complex number"],
     docText]

def objectClass : BuiltinClass where
  name := "object"
  base := ""
  signature := "()"
  doc := ["The base class of the class hierarchy.", "",
          "When called, it accepts no arguments and returns a new featureless",
          "instance that has no instance attributes and cannot be given any.", ""]
  members :=
    [maker] ++
    specials ["__repr__", "__hash__", "__str__", "__getattribute__", "__setattr__",
      "__delattr__", "__lt__", "__le__", "__eq__", "__ne__", "__gt__", "__ge__",
      "__init__"] ++
    [method "__reduce_ex__" "($self, protocol, /)" ["Helper for pickle."],
     method "__reduce__" "($self, /)" ["Helper for pickle."],
     method "__getstate__" "($self, /)" ["Helper for pickle."],
     classMethod "__subclasshook__" ""
      ["Abstract classes can override this to customize issubclass().", "",
        "This is invoked early on by abc.ABCMeta.__subclasscheck__().",
        "It should return True, False or NotImplemented.  If it returns",
        "NotImplemented, the normal algorithm is used.  Otherwise, it",
        "overrides the normal algorithm (and the outcome is cached).", ""],
     classMethod "__init_subclass__" ""
      ["This method is called when a class is subclassed.", "",
        "The default implementation does nothing. It may be",
        "overridden to extend subclasses.", ""],
     method "__format__" "($self, format_spec, /)" ["Default object formatter."],
     method "__sizeof__" "($self, /)" ["Size of object in memory, in bytes."],
     method "__dir__" "($self, /)" ["Default dir() implementation."],
     computed "__class__" ["the object's class"],
     docText]

def typeClass : BuiltinClass where
  name := "type"
  doc := ["type(object) -> the object's type", "type(name, bases, dict, **kwds) -> a new type"]
  members :=
    [maker] ++
    specials ["__repr__", "__call__", "__getattribute__", "__setattr__", "__delattr__",
      "__init__", "__or__", "__ror__"] ++
    [method "mro" "($self, /)" ["Return a type's method resolution order."],
     method "__subclasses__" "($self, /)" ["Return a list of immediate subclasses."],
     classMethod "__prepare__" ""
      ["__prepare__() -> dict", "used to create the namespace for the class statement"],
     method "__instancecheck__" "($self, instance, /)" ["Check if an object is an instance."],
     method "__subclasscheck__" "($self, subclass, /)" ["Check if a class is a subclass."],
     method "__dir__" "($self, /)" ["Specialized __dir__ implementation for types."],
     method "__sizeof__" "($self, /)" ["Return memory consumption of the type object."],
     field "__basicsize__" [],
     field "__itemsize__" [],
     field "__flags__" [],
     field "__weakrefoffset__" [],
     field "__base__" [],
     field "__dictoffset__" [],
     field "__mro__" [],
     computed "__name__" [],
     computed "__qualname__" [],
     computed "__bases__" [],
     computed "__module__" [],
     computed "__abstractmethods__" [],
     computed "__dict__" [],
     computed "__doc__" [],
     computed "__text_signature__" [],
     computed "__annotations__" []]

def moduleClass : BuiltinClass where
  name := "module"
  signature := "(name, doc=None)"
  doc := ["Create a module object.", "",
          "The name must be a string; the optional doc argument can have any type."]
  members :=
    [maker] ++
    specials ["__repr__", "__getattribute__", "__setattr__", "__delattr__", "__init__"] ++
    [method "__dir__" ""
      ["__dir__() -> list", "specialized dir() implementation"],
     field "__dict__" [],
     computed "__annotations__" [],
     docText]

end MacroStubs.Catalogue
