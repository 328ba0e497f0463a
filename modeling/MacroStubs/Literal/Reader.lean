import MacroStubs.Literal.Depth
import MacroStubs.Literal.Grammar
import MacroStubs.Text.Lines

/-! # Reading literals

A text is read as one expression, and as a literal if this denotes plain data. Blank lines and
comments may stand around the expression, which must not be indented.
-/

namespace MacroStubs.Literal

/-- The expression that a whole text is. -/
def expression? (cs : List Char) : Option Expression := do
  if cs.contains '\x00' then none
  let cs := Text.lineFeeds (cs.dropWhile fun c => c = ' ' || c = '\t')
  let tokens ← tokens? cs
  if isShallow tokens then wholeExpression? cs.length tokens else none

/-- The plain data that a text denotes. -/
def read (cs : List Char) : Except Unread Value :=
  match expression? cs with
  | some e => e.value?
  | none => throw .malformed

end MacroStubs.Literal
