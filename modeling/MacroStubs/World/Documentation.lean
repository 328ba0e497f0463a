import MacroStubs.Text.Docstring
import MacroStubs.World.Function

/-! # Documentation

The documentation that a value shows, cleaned, and the mark of macros that take the object they are
called on.
-/

namespace MacroStubs

/-- A documentation as it is shown; none if it is no text or a blank one. -/
def shownDocumentation : Value → Option String
  | .str s => Text.cleanDocstring s
  | _ => none

/-- Whether documentation holds the mark of macros that take the object they are called on. -/
def isMarked (doc : Option String) : Bool :=
  match doc with
  | some s => Text.occursIn receiverMark.toList s.toList
  | none => false

/-- The documentation that a value shows. A value without one shows none. -/
def cleanedDocumentation (read : String → Except Failure Value) : Except Failure (Option String) :=
  match read "__doc__" with
  | .ok doc => pure (shownDocumentation doc)
  | .error f => if f.isAttribute then pure none else throw f

end MacroStubs
