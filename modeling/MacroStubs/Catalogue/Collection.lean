import MacroStubs.Catalogue.Member

/-! # Collections

The classes of collections.
-/

namespace MacroStubs.Catalogue
open Member

def listClass : BuiltinClass where
  name := "list"
  signature := "(iterable=(), /)"
  doc := ["Built-in mutable sequence.", "",
          "If no argument is given, the constructor creates a new empty list.",
          "The argument must be an iterable if specified."]
  members :=
    [maker] ++
    specials ["__repr__"] ++
    [unhashable] ++
    specials ["__getattribute__", "__lt__", "__le__", "__eq__", "__ne__", "__gt__", "__ge__",
      "__iter__", "__init__", "__len__"] ++
    [method "__getitem__" "" ["x.__getitem__(y) <==> x[y]"]] ++
    specials ["__setitem__", "__delitem__", "__add__", "__mul__", "__rmul__", "__contains__",
      "__iadd__", "__imul__"] ++
    [method "__reversed__" "($self, /)" ["Return a reverse iterator over the list."],
     method "__sizeof__" "($self, /)" ["Return the size of the list in memory, in bytes."],
     method "clear" "($self, /)" ["Remove all items from list."],
     method "copy" "($self, /)" ["Return a shallow copy of the list."],
     method "append" "($self, object, /)" ["Append object to the end of the list."],
     method "insert" "($self, index, object, /)" ["Insert object before index."],
     method "extend" "($self, iterable, /)"
      ["Extend list by appending elements from the iterable."],
     method "pop" "($self, index=-1, /)"
      ["Remove and return item at index (default last).", "",
        "Raises IndexError if list is empty or index is out of range."],
     method "remove" "($self, value, /)"
      ["Remove first occurrence of value.", "", "Raises ValueError if the value is not present."],
     method "index" "($self, value, start=0, stop=sys.maxsize, /)"
      ["Return first index of value.", "", "Raises ValueError if the value is not present."],
     method "count" "($self, value, /)" ["Return number of occurrences of value."],
     method "reverse" "($self, /)" ["Reverse *IN PLACE*."],
     method "sort" "($self, /, *, key=None, reverse=False)"
      ["Sort the list in ascending order and return None.", "",
        "The sort is in-place (i.e. the list itself is modified) and stable (i.e. the",
        "order of two equal elements is maintained).", "",
        "If a key function is given, apply it once to each list item and sort them,",
        "ascending or descending, according to their function values.", "",
        "The reverse flag can be set to sort in descending order."],
     classMethod "__class_getitem__" "" ["See PEP 585"],
     docText]

def tupleClass : BuiltinClass where
  name := "tuple"
  signature := "(iterable=(), /)"
  doc := ["Built-in immutable sequence.", "",
          "If no argument is given, the constructor returns an empty tuple.",
          "If iterable is specified the tuple is initialized from iterable's items.", "",
          "If the argument is a tuple, the return value is the same object."]
  members :=
    [maker] ++
    specials ["__repr__", "__hash__", "__getattribute__", "__lt__", "__le__", "__eq__",
      "__ne__", "__gt__", "__ge__", "__iter__", "__len__", "__getitem__", "__add__",
      "__mul__", "__rmul__", "__contains__"] ++
    [method "__getnewargs__" "($self, /)" [],
     method "index" "($self, value, start=0, stop=sys.maxsize, /)"
      ["Return first index of value.", "", "Raises ValueError if the value is not present."],
     method "count" "($self, value, /)" ["Return number of occurrences of value."],
     classMethod "__class_getitem__" "" ["See PEP 585"],
     docText]

def setClass : BuiltinClass where
  name := "set"
  doc := ["set() -> new empty set object", "set(iterable) -> new set object", "",
          "Build an unordered collection of unique elements."]
  members :=
    [maker] ++
    specials ["__repr__"] ++
    [unhashable] ++
    specials ["__getattribute__", "__lt__", "__le__", "__eq__", "__ne__", "__gt__", "__ge__",
      "__iter__", "__init__", "__sub__", "__rsub__", "__and__", "__rand__", "__xor__",
      "__rxor__", "__or__", "__ror__", "__isub__", "__iand__", "__ixor__", "__ior__",
      "__len__"] ++
    [method "__contains__" "" ["x.__contains__(y) <==> y in x."],
     method "add" ""
      ["Add an element to a set.", "", "This has no effect if the element is already present."],
     method "clear" "" ["Remove all elements from this set."],
     method "copy" "" ["Return a shallow copy of a set."],
     method "discard" ""
      ["Remove an element from a set if it is a member.", "",
        "Unlike set.remove(), the discard() method does not raise",
        "an exception when an element is missing from the set."],
     method "difference" ""
      ["Return the difference of two or more sets as a new set.", "",
        "(i.e. all elements that are in this set but not the others.)"],
     method "difference_update" "" ["Remove all elements of another set from this set."],
     method "intersection" ""
      ["Return the intersection of two sets as a new set.", "",
        "(i.e. all elements that are in both sets.)"],
     method "intersection_update" ""
      ["Update a set with the intersection of itself and another."],
     method "isdisjoint" "" ["Return True if two sets have a null intersection."],
     method "issubset" "($self, other, /)"
      ["Test whether every element in the set is in other."],
     method "issuperset" "($self, other, /)"
      ["Test whether every element in other is in the set."],
     method "pop" ""
      ["Remove and return an arbitrary set element.", "Raises KeyError if the set is empty."],
     method "__reduce__" "" ["Return state information for pickling."],
     method "remove" ""
      ["Remove an element from a set; it must be a member.", "",
        "If the element is not a member, raise a KeyError."],
     method "__sizeof__" "" ["S.__sizeof__() -> size of S in memory, in bytes"],
     method "symmetric_difference" ""
      ["Return the symmetric difference of two sets as a new set.", "",
        "(i.e. all elements that are in exactly one of the sets.)"],
     method "symmetric_difference_update" ""
      ["Update a set with the symmetric difference of itself and another."],
     method "union" ""
      ["Return the union of sets as a new set.", "",
        "(i.e. all elements that are in either set.)"],
     method "update" "" ["Update a set with the union of itself and others."],
     classMethod "__class_getitem__" "" ["See PEP 585"],
     docText]

def frozensetClass : BuiltinClass where
  name := "frozenset"
  doc := ["frozenset() -> empty frozenset object", "frozenset(iterable) -> frozenset object",
          "", "Build an immutable unordered collection of unique elements."]
  members :=
    [maker] ++
    specials ["__repr__", "__hash__", "__getattribute__", "__lt__", "__le__", "__eq__",
      "__ne__", "__gt__", "__ge__", "__iter__", "__sub__", "__rsub__", "__and__",
      "__rand__", "__xor__", "__rxor__", "__or__", "__ror__", "__len__"] ++
    [method "__contains__" "" ["x.__contains__(y) <==> y in x."],
     method "copy" "" ["Return a shallow copy of a set."],
     method "difference" ""
      ["Return the difference of two or more sets as a new set.", "",
        "(i.e. all elements that are in this set but not the others.)"],
     method "intersection" ""
      ["Return the intersection of two sets as a new set.", "",
        "(i.e. all elements that are in both sets.)"],
     method "isdisjoint" "" ["Return True if two sets have a null intersection."],
     method "issubset" "($self, other, /)"
      ["Test whether every element in the set is in other."],
     method "issuperset" "($self, other, /)"
      ["Test whether every element in other is in the set."],
     method "__reduce__" "" ["Return state information for pickling."],
     method "__sizeof__" "" ["S.__sizeof__() -> size of S in memory, in bytes"],
     method "symmetric_difference" ""
      ["Return the symmetric difference of two sets as a new set.", "",
        "(i.e. all elements that are in exactly one of the sets.)"],
     method "union" ""
      ["Return the union of sets as a new set.", "",
        "(i.e. all elements that are in either set.)"],
     classMethod "__class_getitem__" "" ["See PEP 585"],
     docText]

def dictClass : BuiltinClass where
  name := "dict"
  doc := ["dict() -> new empty dictionary",
          "dict(mapping) -> new dictionary initialized from a mapping object's",
          "    (key, value) pairs", "dict(iterable) -> new dictionary initialized as if via:",
          "    d = \x7b\x7d", "    for k, v in iterable:", "        d[k] = v",
          "dict(**kwargs) -> new dictionary initialized with the name=value pairs",
          "    in the keyword argument list.  For example:  dict(one=1, two=2)"]
  members :=
    [maker] ++
    specials ["__repr__"] ++
    [unhashable] ++
    specials ["__getattribute__", "__lt__", "__le__", "__eq__", "__ne__", "__gt__", "__ge__",
      "__iter__", "__init__", "__or__", "__ror__", "__ior__", "__len__"] ++
    [method "__getitem__" "" ["x.__getitem__(y) <==> x[y]"]] ++
    specials ["__setitem__", "__delitem__"] ++
    [method "__contains__" "($self, key, /)"
      ["True if the dictionary has the specified key, else False."],
     method "__sizeof__" "" ["D.__sizeof__() -> size of D in memory, in bytes"],
     method "get" "($self, key, default=None, /)"
      ["Return the value for key if key is in the dictionary, else default."],
     method "setdefault" "($self, key, default=None, /)"
      ["Insert key with a value of default if key is not in the dictionary.", "",
        "Return the value for key if key is in the dictionary, else default."],
     method "pop" "($self, key, default=<unrepresentable>, /)"
      ["D.pop(k[,d]) -> v, remove specified key and return the corresponding value.", "",
        "If the key is not found, return the default if given; otherwise,", "raise a KeyError."],
     method "popitem" "($self, /)"
      ["Remove and return a (key, value) pair as a 2-tuple.", "",
        "Pairs are returned in LIFO (last-in, first-out) order.",
        "Raises KeyError if the dict is empty."],
     method "keys" "" ["D.keys() -> a set-like object providing a view on D's keys"],
     method "items" "" ["D.items() -> a set-like object providing a view on D's items"],
     method "values" "" ["D.values() -> an object providing a view on D's values"],
     method "update" ""
      ["D.update([E, ]**F) -> None.  Update D from dict/iterable E and F.",
        "If E is present and has a .keys() method, then does:  for k in E: D[k] = E[k]",
        "If E is present and lacks a .keys() method, then does:  for k, v in E: D[k] = v",
        "In either case, this is followed by: for k in F:  D[k] = F[k]"],
     classMethod "fromkeys" "($type, iterable, value=None, /)"
      ["Create a new dictionary with keys from iterable and values set to value."],
     method "clear" "" ["D.clear() -> None.  Remove all items from D."],
     method "copy" "" ["D.copy() -> a shallow copy of D"],
     method "__reversed__" "($self, /)" ["Return a reverse iterator over the dict keys."],
     classMethod "__class_getitem__" "" ["See PEP 585"],
     docText]

def mappingProxyClass : BuiltinClass where
  name := "mappingproxy"
  members :=
    [maker] ++
    specials ["__repr__", "__str__", "__getattribute__", "__lt__", "__le__", "__eq__", "__ne__",
      "__gt__", "__ge__", "__iter__", "__or__", "__ror__", "__ior__", "__len__",
      "__getitem__", "__contains__"] ++
    [method "get" "" ["D.get(k[,d]) -> D[k] if k in D, else d.  d defaults to None."],
     method "keys" "" ["D.keys() -> a set-like object providing a view on D's keys"],
     method "values" "" ["D.values() -> an object providing a view on D's values"],
     method "items" "" ["D.items() -> a set-like object providing a view on D's items"],
     method "copy" "" ["D.copy() -> a shallow copy of D"],
     classMethod "__class_getitem__" "" ["See PEP 585"],
     method "__reversed__" "" ["D.__reversed__() -> reverse iterator"],
     docText,
     unhashable]

def rangeClass : BuiltinClass where
  name := "range"
  doc := ["range(stop) -> range object", "range(start, stop[, step]) -> range object", "",
          "Return an object that produces a sequence of integers from start (inclusive)",
          "to stop (exclusive) by step.  range(i, j) produces i, i+1, i+2, ..., j-1.",
          "start defaults to 0, and stop is omitted!  range(4) produces 0, 1, 2, 3.",
          "These are exactly the valid indices for a list of 4 elements.",
          "When step is given, it specifies the increment (or decrement)."]
  members :=
    [maker] ++
    specials ["__repr__", "__hash__", "__getattribute__", "__lt__", "__le__", "__eq__",
      "__ne__", "__gt__", "__ge__", "__iter__", "__bool__", "__len__", "__getitem__",
      "__contains__"] ++
    [method "__reversed__" "" ["Return a reverse iterator."],
     method "__reduce__" "" [],
     method "count" ""
      ["rangeobject.count(value) -> integer -- return number of occurrences of value"],
     method "index" ""
      ["rangeobject.index(value) -> integer -- return index of value.",
        "Raise ValueError if the value is not present."],
     field "start" [],
     field "stop" [],
     field "step" [],
     docText]

end MacroStubs.Catalogue
