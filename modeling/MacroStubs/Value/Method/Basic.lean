import MacroStubs.Value.Items

/-! # Methods and their arguments

What the methods of plain data need to know of a world, and how they read numbers and bounds among
their arguments.
-/

namespace MacroStubs.Value.Method

/-- The classes of values, and their printed forms. -/
structure Setting where
  classing : Classing
  printed : Value → Except Failure String

/-- Arguments that a method does not take. -/
def refuse {α : Type} (owner name : String) : Except Failure α :=
  throw (.builtinRefused s!"{owner}.{name}() refuses its arguments")

def valueError {α : Type} (message : String) : Except Failure α :=
  throw (.thrown { kind := "ValueError", message })

def indexError {α : Type} (message : String) : Except Failure α :=
  throw (.thrown { kind := "IndexError", message })

/-- The whole number that an argument is. -/
def number (v : Value) : Except Failure Int :=
  match v.int? with
  | some n => pure n
  | none => throw (.builtinRefused "the argument cannot be interpreted as an integer")

/-- How often a limit allows something; a negative one allows everything. -/
def limit (n : Int) : Nat := if n < 0 then 1000000000 else n.toNat

/-- A bound, counted from the end if it is negative. -/
def fromEnd (length : Nat) (n : Int) : Nat := if n < 0 then (n + length).toNat else n.toNat

/-- The bounds that the arguments of a search give; the second one is within the length. -/
def bounds (length : Nat) (arguments : List Value) : Except Failure (Nat × Nat) := do
  let read (v : Value) (other : Nat) : Except Failure Nat := match v with
    | null => pure other
    | v => fromEnd length <$> number v
  match arguments with
  | [] => pure (0, length)
  | [start] => do pure (← read start 0, length)
  | [start, stop] => do pure (← read start 0, min length (← read stop length))
  | _ => throw (.builtinRefused "a search takes two bounds at most")

end MacroStubs.Value.Method
