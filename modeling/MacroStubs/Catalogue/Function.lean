import MacroStubs.Value

/-! # Built-in functions

The parameters and the documentation of the built-in functions.
-/

namespace MacroStubs.Builtin

/-- The parameters of a built-in function as a text; empty if it does not tell them. -/
def signature : Builtin → String
  | len => "($module, obj, /)"
  | print => "($module, /, *args, sep=' ', end='\\n', file=None, flush=False)"
  | sorted => "($module, iterable, /, *, key=None, reverse=False)"
  | max => ""
  | isinstance => "($module, obj, class_or_tuple, /)"

/-- The lines of the documentation of a built-in function. -/
def doc : Builtin → List String
  | len => ["Return the number of items in a container."]
  | print =>
    ["Prints the values to a stream, or to sys.stdout by default.", "", "  sep",
     "    string inserted between values, default a space.", "  end",
     "    string appended after the last value, default a newline.", "  file",
     "    a file-like object (stream); defaults to the current sys.stdout.", "  flush",
     "    whether to forcibly flush the stream."]
  | sorted =>
    ["Return a new list containing all items from the iterable in ascending order.", "",
     "A custom key function can be supplied to customize the sort order, and the",
     "reverse flag can be set to request the result in descending order."]
  | max =>
    ["max(iterable, *[, default=obj, key=func]) -> value",
     "max(arg1, arg2, *args, *[, key=func]) -> value", "",
     "With a single iterable argument, return its biggest item. The",
     "default keyword-only argument specifies an object to return if",
     "the provided iterable is empty.",
     "With two or more arguments, return the largest argument."]
  | isinstance =>
    ["Return whether an object is an instance of a class or of a subclass thereof.", "",
     "A tuple, as in ``isinstance(x, (A, B, ...))``, may be given as the target to",
     "check against. This is equivalent to ``isinstance(x, A) or isinstance(x, B)",
     "or ...`` etc."]

end MacroStubs.Builtin
