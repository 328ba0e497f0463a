import MacroStubs.Failure
import MacroStubs.Number.Decimal
import MacroStubs.Parameter
import MacroStubs.Table

/-! # Values

The values that macros, defaults and attributes are: plain data, callables, members of classes, and
references to the classes, objects and modules of a world. A callable holds what it is made of;
classes and objects are named, since their attributes change.
-/

namespace MacroStubs

/-- A class: one that every world has, or one that a world defines. -/
inductive ClassId where
  | builtin (name : String)
  | defined (id : String)
  deriving DecidableEq, Repr, Inhabited

/-- Containers that hold themselves. -/
inductive Cycle where
  /-- A list whose only item is itself. -/
  | list
  /-- A dictionary that holds itself under one key. -/
  | dict
  /-- A tuple of a list that holds the tuple. -/
  | tuple
  /-- A list of a dictionary that holds the list. -/
  | listOfDict
  deriving DecidableEq, Repr, Inhabited

/-- Built-in functions. -/
inductive Builtin where
  | len | print | sorted | max | isinstance
  deriving DecidableEq, Repr, Inhabited

/-- The functions that the root class and the class of macroable classes are made of. -/
inductive Native where
  /-- The registry that a class writes to. -/
  | registry
  /-- The macro that a name means on a class. -/
  | find
  | register
  | registerGlobally
  | adopt
  | holds
  | flush
  /-- What is done to a new class below the root class. -/
  | subclassed
  /-- What an unknown attribute of an object means. -/
  | ofObject
  /-- What an unknown attribute of a class means. -/
  | ofClass
  deriving DecidableEq, Repr, Inhabited

/-- What a call of a function gives. -/
inductive Outcome (α : Type) where
  /-- The record of the call. -/
  | record
  | returns (value : α)
  | raises (failure : Thrown)
  deriving Inhabited

/-- A callable or wrapper that stands for no object of a world has no identity. -/
inductive Value where
  | null
  | bool (b : Bool)
  | int (n : Int)
  | float (x : Binary64)
  | complex (re im : Binary64)
  | str (s : String)
  | bytes (data : List UInt8)
  | bytearray (data : List UInt8)
  | list (items : List Value)
  | tuple (items : List Value)
  | set (items : List Value)
  | frozenset (items : List Value)
  | dict (entries : List (Value × Value))
  /-- A mapping that is no dictionary. -/
  | mapping (entries : List (Value × Value))
  /-- A read-only view of a dictionary. -/
  | mappingproxy (entries : List (Value × Value))
  | range (start stop step : Int)
  | ellipsis
  /-- An object that prints as the given value, if that is a text. -/
  | custom (printed : Value)
  /-- An object whose printing raises. -/
  | raising (failure : Thrown)
  | cyclic (shape : Cycle)
  | function (id name : String) (parameters : List (Parameter Value)) (doc : Value)
      (outcome : Outcome Value)
  /-- A function that passes its arguments on to another callable. -/
  | wrapped (id : String) (inner : Value)
  | native (n : Native)
  | builtin (b : Builtin)
  /-- A callable with some arguments already given. -/
  | partialCall (id : Option String) (inner : Value) (arguments : List Value)
      (keywords : List (String × Value))
  | staticMethod (id : Option String) (inner : Value)
  | classMethod (id : Option String) (inner : Value)
  | property (id : Option String) (getter : Value)
  /-- A callable with its first argument given. -/
  | bound (id : Option String) (inner self : Value)
  /-- A member of a class as the class holds it. -/
  | member (owner : ClassId) (name : String)
  /-- A member of a class as it is reached through an object. -/
  | memberOf (owner : ClassId) (name : String) (self : Value)
  | cls (c : ClassId)
  | objectRef (id : String)
  /-- A new object of a class, with nothing of its own. -/
  | fresh (c : ClassId)
  | moduleRef (name : String)
  /-- What a call of a function recorded. -/
  | callRecord (function : String) (arguments : List (String × Value))
  /-- An object of which only the name of its class matters. -/
  | anonymous (className : String)
  /-- What stands for a macro that is not there. -/
  | missing
  deriving Inhabited

namespace Value

def text? : Value → Option String
  | str s => some s
  | _ => none

/-- The pair that a macro of two items, the second a text, stands for. -/
def pair? : Value → Option (Value × String)
  | tuple [target, str name] => some (target, name)
  | list [target, str name] => some (target, name)
  | _ => none

/-- The entries of a value that maps keys to values. -/
def entries? : Value → Option (List (Value × Value))
  | dict es => some es
  | mapping es => some es
  | mappingproxy es => some es
  | _ => none

def isPlainFunction : Value → Bool
  | function .. => true
  | wrapped .. => true
  | native _ => true
  | _ => false

def isClass : Value → Bool
  | cls _ => true
  | _ => false

def isMissing : Value → Bool
  | missing => true
  | _ => false

end Value

namespace Builtin

def name : Builtin → String
  | len => "len"
  | print => "print"
  | sorted => "sorted"
  | max => "max"
  | isinstance => "isinstance"

end Builtin
end MacroStubs
