import MacroStubs.Catalogue.Member

/-! # Callables

The classes of functions and methods, of what wraps them, and of the descriptors in which the
classes of the catalogue keep their members.
-/

namespace MacroStubs.Catalogue
open Member

def functionClass : BuiltinClass where
  name := "function"
  signature := "(code, globals, name=None, argdefs=None, closure=None)"
  doc := ["Create a function object.", "", "  code", "    a code object", "  globals",
          "    the globals dictionary", "  name",
          "    a string that overrides the name from the code object", "  argdefs",
          "    a tuple that specifies the default argument values", "  closure",
          "    a tuple that supplies the bindings for free variables"]
  members :=
    [maker] ++
    specials ["__repr__", "__call__", "__get__"] ++
    [field "__closure__" [],
     field "__doc__" [],
     field "__globals__" [],
     field "__module__" [],
     field "__builtins__" [],
     computed "__code__" [],
     computed "__defaults__" [],
     computed "__kwdefaults__" [],
     computed "__annotations__" [],
     computed "__dict__" [],
     computed "__name__" [],
     computed "__qualname__" []]

def methodClass : BuiltinClass where
  name := "method"
  signature := "(function, instance, /)"
  doc := ["Create a bound instance method object."]
  members :=
    [maker] ++
    specials ["__repr__", "__hash__", "__call__", "__getattribute__", "__setattr__",
      "__delattr__", "__lt__", "__le__", "__eq__", "__ne__", "__gt__", "__ge__"] ++
    [method "__reduce__" "($self, /)" [],
     field "__func__" ["the function (or other callable) implementing a method"],
     field "__self__" ["the instance to which a method is bound"],
     computed "__doc__" []]

def builtinFunctionClass : BuiltinClass where
  name := "builtin_function_or_method"
  members :=
    specials ["__repr__", "__hash__", "__call__", "__getattribute__", "__lt__", "__le__",
      "__eq__", "__ne__", "__gt__", "__ge__"] ++
    [method "__reduce__" "" [],
     field "__module__" [],
     computed "__doc__" [],
     computed "__name__" [],
     computed "__qualname__" [],
     computed "__self__" [],
     computed "__text_signature__" []]

def partialClass : BuiltinClass where
  name := "partial"
  label := "functools.partial"
  module := "functools"
  doc := ["partial(func, *args, **keywords) - new function with partial application",
          "    of the given arguments and keywords.", ""]
  members :=
    [maker] ++
    specials ["__repr__", "__call__", "__getattribute__", "__setattr__", "__delattr__"] ++
    [method "__reduce__" "" [],
     method "__setstate__" "" [],
     classMethod "__class_getitem__" "" ["See PEP 585"],
     field "func" ["function object to use in future partial calls"],
     field "args" ["tuple of arguments to future partial calls"],
     field "keywords" ["dictionary of keyword arguments to future partial calls"],
     field "__vectorcalloffset__" [],
     computed "__dict__" [],
     docText,
     moduleName]

def staticMethodClass : BuiltinClass where
  name := "staticmethod"
  doc := ["staticmethod(function) -> method", "", "Convert a function to be a static method.",
          "", "A static method does not receive an implicit first argument.",
          "To declare a static method, use this idiom:", "", "     class C:",
          "         @staticmethod", "         def f(arg1, arg2, argN):", "             ...", "",
          "It can be called either on the class (e.g. C.f()) or on an instance",
          "(e.g. C().f()). Both the class and the instance are ignored, and",
          "neither is passed implicitly as the first argument to the method.", "",
          "Static methods in Python are similar to those found in Java or C++.",
          "For a more advanced concept, see the classmethod builtin."]
  members :=
    [maker] ++
    specials ["__repr__", "__call__", "__get__", "__init__"] ++
    [field "__func__" [],
     field "__wrapped__" [],
     computed "__isabstractmethod__" [],
     computed "__dict__" [],
     docText]

def classMethodClass : BuiltinClass where
  name := "classmethod"
  doc := ["classmethod(function) -> method", "", "Convert a function to be a class method.", "",
          "A class method receives the class as implicit first argument,",
          "just like an instance method receives the instance.",
          "To declare a class method, use this idiom:", "", "  class C:", "      @classmethod",
          "      def f(cls, arg1, arg2, argN):", "          ...", "",
          "It can be called either on the class (e.g. C.f()) or on an instance",
          "(e.g. C().f()).  The instance is ignored except for its class.",
          "If a class method is called for a derived class, the derived class",
          "object is passed as the implied first argument.", "",
          "Class methods are different than C++ or Java static methods.",
          "If you want those, see the staticmethod builtin."]
  members :=
    [maker] ++
    specials ["__repr__", "__get__", "__init__"] ++
    [field "__func__" [],
     field "__wrapped__" [],
     computed "__isabstractmethod__" [],
     computed "__dict__" [],
     docText]

def propertyClass : BuiltinClass where
  name := "property"
  signature := "(fget=None, fset=None, fdel=None, doc=None)"
  doc := ["Property attribute.", "", "  fget",
          "    function to be used for getting an attribute value", "  fset",
          "    function to be used for setting an attribute value", "  fdel",
          "    function to be used for del'ing an attribute", "  doc", "    docstring", "",
          "Typical use is to define a managed attribute x:", "", "class C(object):",
          "    def getx(self): return self._x", "    def setx(self, value): self._x = value",
          "    def delx(self): del self._x",
          "    x = property(getx, setx, delx, \"I'm the 'x' property.\")", "",
          "Decorators make defining new properties or modifying existing ones easy:", "",
          "class C(object):", "    @property", "    def x(self):",
          "        \"I am the 'x' property.\"", "        return self._x", "    @x.setter",
          "    def x(self, value):", "        self._x = value", "    @x.deleter",
          "    def x(self):", "        del self._x"]
  members :=
    [maker] ++
    specials ["__getattribute__", "__get__", "__set__", "__delete__", "__init__"] ++
    [method "getter" ""
      ["Descriptor to obtain a copy of the property with a different getter."],
     method "setter" ""
      ["Descriptor to obtain a copy of the property with a different setter."],
     method "deleter" ""
      ["Descriptor to obtain a copy of the property with a different deleter."],
     method "__set_name__" "" ["Method to set name of a property."],
     field "fget" [],
     field "fset" [],
     field "fdel" [],
     field "__doc__" [],
     computed "__isabstractmethod__" []]

def methodDescriptorClass : BuiltinClass where
  name := "method_descriptor"
  members :=
    specials ["__repr__", "__call__", "__getattribute__", "__get__"] ++
    [method "__reduce__" "" [],
     field "__objclass__" [],
     field "__name__" [],
     computed "__doc__" [],
     computed "__qualname__" [],
     computed "__text_signature__" []]

def specialDescriptorClass : BuiltinClass where
  name := "wrapper_descriptor"
  members :=
    specials ["__repr__", "__call__", "__getattribute__", "__get__"] ++
    [method "__reduce__" "" [],
     field "__objclass__" [],
     field "__name__" [],
     computed "__doc__" [],
     computed "__qualname__" [],
     computed "__text_signature__" []]

def boundSpecialClass : BuiltinClass where
  name := "method-wrapper"
  members :=
    specials ["__repr__", "__hash__", "__call__", "__getattribute__", "__lt__", "__le__",
      "__eq__", "__ne__", "__gt__", "__ge__"] ++
    [method "__reduce__" "" [],
     field "__self__" [],
     computed "__objclass__" [],
     computed "__name__" [],
     computed "__qualname__" [],
     computed "__doc__" [],
     computed "__text_signature__" []]

def classMethodDescriptorClass : BuiltinClass where
  name := "classmethod_descriptor"
  members :=
    specials ["__repr__", "__call__", "__getattribute__", "__get__"] ++
    [field "__objclass__" [],
     field "__name__" [],
     computed "__doc__" [],
     computed "__qualname__" [],
     computed "__text_signature__" []]

def attributeDescriptorClass : BuiltinClass where
  name := "getset_descriptor"
  members :=
    specials ["__repr__", "__getattribute__", "__get__", "__set__", "__delete__"] ++
    [field "__objclass__" [],
     field "__name__" [],
     computed "__doc__" [],
     computed "__qualname__" []]

def fieldDescriptorClass : BuiltinClass where
  name := "member_descriptor"
  members :=
    specials ["__repr__", "__getattribute__", "__get__", "__set__", "__delete__"] ++
    [method "__reduce__" "" [],
     field "__objclass__" [],
     field "__name__" [],
     computed "__doc__" [],
     computed "__qualname__" []]

end MacroStubs.Catalogue
