import MacroStubs.World.Signature

/-! # Macros

A registered macro as a declaration sees it: a callable that is called as it is, or a method that is
found on the class of a target and called through it.
-/

namespace MacroStubs

inductive Macro where
  | callable (handle : Value)
  | method (owner : ClassId) (name : String)
  deriving Inhabited

/-- A macro under its name. -/
structure Entry where
  name : String
  entry : Macro
  deriving Inhabited

/-- The macros of one class in the order of their registration. The module and the name are what the
class tells. -/
structure ClassMacros where
  module : Value
  className : Value
  field : String := ""
  entries : List Entry := []
  deriving Inhabited

/-- The name of a class within that of its module. -/
def qualifiedName (module className : String) : String := module ++ "." ++ className

namespace Macro

variable (w : World) (r : Reach) (σ : State)

/-- What a registered value stands for. -/
def ofValue (v : Value) : Macro :=
  match v.pair? with
  | some (.cls c, name) => method c name
  | some (target, name) => method (σ.classOf target) name
  | none => callable v

/-- Whether the first parameter takes the object that the macro is called on. -/
def includesReceiver : Macro → Bool
  | callable _ => true
  | method .. => false

/-- The method as its class holds it. -/
def raw (owner : ClassId) (name : String) : Except Failure Value :=
  match Attribute.static? σ (.cls owner) name with
  | some v => pure v
  | none => throw (.unknownName name)

/-- What a static method is made of. -/
def static? : Value → Option Value
  | .staticMethod _ inner => some inner
  | .member owner name =>
    if Catalogue.kindOf owner name = .staticMethod then some (.memberOf owner name (.cls owner))
    else none
  | _ => none

/-- A method without what makes it a static or a class method. -/
def unbound (v : Value) : Value :=
  match v with
  | .classMethod _ inner => inner
  | v => (static? v).getD v

/-- The parameters without a first positional one. -/
def dropReceiver : ParameterList → ParameterList
  | [] => []
  | p :: rest => if p.kind.isPositional then rest else p :: rest

/-- The parameters that a caller passes. -/
def parameters : Macro → Except Failure ParameterList
  | callable handle => signature w r σ handle
  | method owner name => do
    let v ← raw σ owner name
    match static? v with
    | some inner => signature w r σ inner
    | none => do
      let ps ← signature w r σ (unbound v)
      pure (dropReceiver ps)

/-- The cleaned documentation. -/
def docstring : Macro → Except Failure (Option String)
  | callable handle => cleanedDocumentation (r.read σ handle)
  | method owner name => do
    let v ← raw σ owner name
    cleanedDocumentation (r.read σ (unbound v))

/-- Whether the macro is declared as a method of an object. -/
def isInstantiated (m : Macro) : Except Failure Bool :=
  (m.docstring r σ).map isMarked

end Macro
end MacroStubs
