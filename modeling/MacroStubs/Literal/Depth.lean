import MacroStubs.Literal.Token

/-! # Depth of expressions

Reading an expression takes steps within steps, and at most 6000 of them may be open at once. How
many an item takes depends on the bracket around it and on its place there.
-/

namespace MacroStubs.Literal

def maxSteps : Nat := 6000

/-- The steps that are open before the expression itself. -/
def firstSteps : Nat := 2

/-- The steps of a bracket around its first, second and any later item. -/
def bracketSteps (bracket : String) (items : Nat) : Nat :=
  match bracket == "(", items with
  | true, 0 => 28
  | true, 1 => 30
  | true, _ => 31
  | false, 0 => 29
  | false, _ => 30

/-- The steps of a call around its arguments. -/
def callSteps : Nat := 24

/-- The steps of an attempt to read a word, number or closing bracket. -/
def leafSteps : Nat := 23

/-- The steps of a quotation. -/
def quotationSteps : Nat := 25

structure OpenBracket where
  text : String
  /-- The steps that are open around the bracket. -/
  outer : Nat
  items : Nat := 0

/-- The steps that are open around an item of the bracket. -/
def OpenBracket.steps (b : OpenBracket) : Nat := b.outer + bracketSteps b.text b.items

structure Depth where
  /-- The steps that are open where reading stands. -/
  steps : Nat := firstSteps
  deepest : Nat := firstSteps + leafSteps
  opened : List OpenBracket := []
  /-- Whether an operand was read last, so that a bracket is a call and a sign stands between two. -/
  behindOperand : Bool := false

/-- The symbols, signs apart, that begin an expression within the one around it. -/
def nestingSymbols : List String := ["~", "not", "**", "lambda", "else"]

namespace Depth

/-- An attempt to read something that takes so many steps. -/
def attempt (d : Depth) (steps : Nat) : Depth :=
  { d with deepest := max d.deepest (d.steps + steps) }

def openBracket (d : Depth) (text : String) : Depth :=
  let around := if d.behindOperand then callSteps else bracketSteps text 0
  { d with
    steps := d.steps + around
    opened := { text, outer := d.steps } :: d.opened
    behindOperand := false }.attempt leafSteps

def closeBracket (d : Depth) : Depth :=
  { d with
    steps := (d.opened.head?.map OpenBracket.outer).getD d.steps
    opened := d.opened.drop 1
    behindOperand := true }

def nextItem (d : Depth) : Depth :=
  match d.opened with
  | [] => { d with steps := firstSteps, behindOperand := false }.attempt leafSteps
  | b :: outer =>
    let b := { b with items := b.items + 1 }
    { d with
      steps := b.steps
      opened := b :: outer
      behindOperand := false }.attempt leafSteps

def next (d : Depth) : Token → Depth
  | .name _ => { d.attempt leafSteps with behindOperand := true }
  | .number _ => { d.attempt leafSteps with behindOperand := true }
  | .quotation _ => { d.attempt quotationSteps with behindOperand := true }
  | .symbol text =>
    if text = "(" ∨ text = "[" ∨ text = "\x7b" then d.openBracket text
    else if text = ")" ∨ text = "]" ∨ text = "\x7d" then d.closeBracket
    else if text = "," then d.nextItem
    else if text = ":" then
      { d with
        steps := (d.opened.head?.map OpenBracket.steps).getD d.steps
        behindOperand := false }.attempt leafSteps
    else if ((text = "+" ∨ text = "-") ∧ ¬ d.behindOperand) ∨ nestingSymbols.contains text then
      { d with steps := d.steps + 1, behindOperand := false }.attempt leafSteps
    else { d.attempt leafSteps with behindOperand := false }

end Depth

/-- Whether reading an expression of these tokens stays within the bound. -/
def isShallow (tokens : List Token) : Bool :=
  (tokens.foldl Depth.next {}).deepest ≤ maxSteps

end MacroStubs.Literal
