/-! # Members of built-in classes

What a class that every world has keeps under its names, as far as it can be told without the world:
how the member is reached, the parameters that it tells, and its documentation.
-/

namespace MacroStubs

/-- How a member of a built-in class is reached and what it is. -/
inductive MemberKind where
  /-- A special method, which an operation of the language calls. -/
  | special
  | method
  | classMethod
  | staticMethod
  /-- What makes the objects of the class. -/
  | maker
  /-- A computed attribute. -/
  | computed
  /-- An attribute that is a part of the object. -/
  | field
  /-- The documentation of the class. -/
  | docText
  /-- The module of the class. -/
  | moduleName
  /-- The mark of a class whose objects are no keys. -/
  | unhashable
  deriving DecidableEq, Repr, Inhabited

structure Member where
  kind : MemberKind
  name : String
  /-- The parameters as a text; none are told if it is empty. -/
  signature : String := ""
  /-- The lines of the documentation. -/
  doc : List String := []
  deriving Repr, Inhabited

namespace Member

def specials (names : List String) : List Member :=
  names.map fun name => { kind := .special, name }

def method (name signature : String) (doc : List String) : Member :=
  { kind := .method, name, signature, doc }

def classMethod (name signature : String) (doc : List String) : Member :=
  { kind := .classMethod, name, signature, doc }

def staticMethod (name signature : String) (doc : List String) : Member :=
  { kind := .staticMethod, name, signature, doc }

def computed (name : String) (doc : List String) : Member := { kind := .computed, name, doc }

def field (name : String) (doc : List String) : Member := { kind := .field, name, doc }

def maker : Member :=
  { kind := .maker, name := "__new__", signature := "($type, *args, **kwargs)"
    doc := ["Create and return a new object.  See help(type) for accurate signature."] }

def docText : Member := { kind := .docText, name := "__doc__" }

def moduleName : Member := { kind := .moduleName, name := "__module__" }

def unhashable : Member := { kind := .unhashable, name := "__hash__" }

end Member

structure BuiltinClass where
  name : String
  /-- The name in messages about objects of the class. -/
  label : String := name
  module : String := "builtins"
  /-- The class below which it stands; empty for the class of all objects. -/
  base : String := "object"
  /-- The parameters that making an object takes, as a text. -/
  signature : String := ""
  /-- The lines of the documentation. -/
  doc : List String := []
  members : List Member := []
  deriving Repr, Inhabited

end MacroStubs
