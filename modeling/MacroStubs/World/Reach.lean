import MacroStubs.World.Basic

/-! # Reach

Reading an attribute may call what the attribute is made of, and a call may read attributes. What one
needs of the other is passed along as a `Reach`, so that each is defined on its own.
-/

namespace MacroStubs

/-- How attributes are read and callables called. -/
structure Reach where
  read : State → Value → String → Except Failure Value
  call : Value → List Value → Table String Value → Run Value

namespace Reach

variable (r : Reach)

/-- Neither reads nor calls anything. -/
def none : Reach where
  read _ _ _ := throw .nestingTooDeep
  call _ _ _ := throw .nestingTooDeep

/-- What a call gives; its changes are dropped. -/
def value (σ : State) (f : Value) (arguments : List Value) : Except Failure Value :=
  ((r.call f arguments []).run σ).1

/-- The attribute of a value, if it has one. -/
def find? (σ : State) (v : Value) (name : String) : Except Failure (Option Value) :=
  match r.read σ v name with
  | .ok found => pure (some found)
  | .error f => if f.isAttribute then pure Option.none else throw f

/-- Calls the method of a value. -/
def invoke (v : Value) (name : String) (arguments : List Value)
    (keywords : Table String Value) : Run Value := do
  let f ← Run.read fun σ => r.read σ v name
  r.call f arguments keywords

end Reach
end MacroStubs
