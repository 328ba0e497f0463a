import MacroStubs.Value

/-! # The functions of the root class

The names, the parameters and the documentation of the functions that the root class and the class of
macroable classes are made of.
-/

namespace MacroStubs.Native

def all : List Native :=
  [.registry, .find, .register, .registerGlobally, .adopt, .holds, .flush, .subclassed, .ofObject,
   .ofClass]

/-- The name under which a class keeps the function. -/
def name : Native → String
  | registry => "_registry"
  | find => "_find_macro"
  | register => "macro"
  | registerGlobally => "global_macro"
  | adopt => "mixin"
  | holds => "has_macro"
  | flush => "flush_macros"
  | subclassed => "__init_subclass__"
  | ofObject => "__getattr__"
  | ofClass => "__getattr__"

def qualname (n : Native) : String :=
  (if n = ofClass then "MacroableMeta." else "Macroable.") ++ n.name

/-- Whether the function is a class method. -/
def isClassMethod : Native → Bool
  | ofObject | ofClass => false
  | _ => true

def parameters : Native → List (Parameter Value)
  | registry => [{ name := "cls" }]
  | find => [{ name := "cls" }, { name := "name" }]
  | register => [{ name := "cls" }, { name := "name" }, { name := "macro" }]
  | registerGlobally => [{ name := "cls" }, { name := "name" }, { name := "macro" }]
  | adopt =>
    [{ name := "cls" }, { name := "source" }, { name := "replace", default := some (.bool true) }]
  | holds => [{ name := "cls" }, { name := "name" }]
  | flush => [{ name := "cls" }]
  | subclassed => [{ name := "cls" }, { name := "kwargs", kind := .extraKeyword }]
  | ofObject => [{ name := "self" }, { name := "name" }]
  | ofClass => [{ name := "cls" }, { name := "name" }]

def doc : Native → Value
  | register =>
    .str ("Register ``macro`` under ``name``.\n\n        Args:\n" ++
      "            name: Attribute name the macro is reachable under\n" ++
      "            macro: A callable, or a ``(target, method_name)`` pair\n        ")
  | registerGlobally => .str "Register ``macro`` for every macroable class."
  | adopt =>
    .str ("Register every public routine of ``source`` as a macro.\n\n        Args:\n" ++
      "            source: Class or object whose public functions become macros\n" ++
      "            replace: Overwrite macros that are already registered\n        ")
  | flush => .str "Remove every macro registered on this class."
  | _ => .null

/-- The functions under whose names callers reach the registries. -/
def isPublic : Native → Bool
  | register | registerGlobally | adopt | holds | flush => true
  | _ => false

end MacroStubs.Native
