/-! # Parameters

A parameter of a callable: its name, how an argument reaches it, and its default.
-/

namespace MacroStubs

inductive ParameterKind where
  | positionalOnly
  | positionalOrKeyword
  /-- Takes the positional arguments left over, `*name`. -/
  | extraPositional
  | keywordOnly
  /-- Takes the keyword arguments left over, `**name`. -/
  | extraKeyword
  deriving DecidableEq, Repr, Inhabited

namespace ParameterKind

/-- Whether one positional argument fills the parameter. -/
def isPositional : ParameterKind → Bool
  | positionalOnly | positionalOrKeyword => true
  | _ => false

def isExtra : ParameterKind → Bool
  | extraPositional | extraKeyword => true
  | _ => false

end ParameterKind

structure Parameter (α : Type) where
  name : String
  kind : ParameterKind := .positionalOrKeyword
  default : Option α := none
  deriving Repr, Inhabited

/-- Whether a caller may leave the parameter out. -/
def Parameter.isOptional {α : Type} (p : Parameter α) : Bool :=
  p.default.isSome || p.kind.isExtra

end MacroStubs
