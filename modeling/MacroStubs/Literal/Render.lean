import MacroStubs.Literal.Reader
import MacroStubs.Record
import MacroStubs.Value.Print

/-! # Defaults as literals

A default is written by its printed form, provided that this reads back as plain data. A value
whose printing fails has no literal form either; only an exit, an interrupt or the like passes.
-/

namespace MacroStubs.Value

/-- The literal text of a value, if it has one. -/
def literal? (labels : Labels) (v : Value) : Except Failure (Option (List Char)) :=
  match printed labels v with
  | .ok text =>
    match Literal.read text with
    | .ok _ => pure (some text)
    | .error .malformed => pure none
    | .error .tooLarge => throw .intTooLarge
  | .error f => if f.isHandled then pure none else throw f

/-- What there is to report when the literal text of a value is asked for. -/
def literalNotes (labels : Labels) (v : Value) : List Record :=
  match printed labels v with
  | .ok _ => []
  | .error f =>
    if f.isHandled then
      [{ level := .debug
         reporter := "macro_stubgen.domain.services.generation.literal_renderer"
         message := s!"repr() failed for default of type {labels.typeName v}: {f.message}" }]
    else []

end MacroStubs.Value
