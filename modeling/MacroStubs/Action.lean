import MacroStubs.Value

/-! # Actions

What a program can be told to do with the registries, attributes and modules of a world. The body of
a module is a list of actions too.
-/

namespace MacroStubs

/-- A class with macros to be declared: its module, its name and the macros by name. -/
structure Roster where
  module : String
  className : String
  macros : List (String × Value)

inductive Action where
  | register (target name entry : Value)
  | registerGlobally (target name entry : Value)
  | flush (target : Value)
  | hasMacro (target name : Value)
  | adopt (target source : Value) (replace : Option Bool)
  | registry (target : Value)
  | get (target : Value) (name : String)
  | hasAttribute (target : Value) (name : String)
  | set (target : Value) (name : String) (value : Value)
  | call (target : Value) (name : String) (arguments : List Value)
      (keywords : List (String × Value))
  | resolve (identifier : String)
  | resolveAll (identifiers : List String)
  | findStorage (target : Value) (fields : Option (List String))
  | extract (target : Value) (fields : Option (List String))
  | describe (name : String) (entry : Value)
  | declare (owner name : String) (entry : Value)
  | declareAll (classes : List Roster)
  | collect (identifiers : List String)
  | render (identifiers : List String)
  | writeTo (identifiers : List String)
  | write (identifiers : List String) (path : String)
  | bootstrap (modules : List String) (base : Option String)

end MacroStubs
