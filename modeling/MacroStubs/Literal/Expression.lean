import MacroStubs.Value.Equality

/-! # Literal expressions

The expressions that denote plain data: constants, displays of tuples, lists, sets and
dictionaries, one sign before a number, and the sum of a real and an imaginary number. Any other
expression is kept only as far as a place in an expression asks for its form.
-/

namespace MacroStubs

/-- Why a text denotes no plain data. -/
inductive Unread where
  /-- It is no literal expression. -/
  | malformed
  /-- The real part of a sum is a whole number beyond all doubles. -/
  | tooLarge
  deriving DecidableEq, Repr

inductive Expression where
  | constant (value : Value)
  /-- A name, which may be that of the set type. -/
  | name (isSet : Bool)
  /-- The set type called without arguments. -/
  | emptySet
  | tuple (items : List Expression)
  | list (items : List Expression)
  | set (items : List Expression)
  | dict (entries : List (Expression × Expression))
  | signed (negative : Bool) (operand : Expression)
  | sum (negative : Bool) (left right : Expression)
  /-- An attribute or an item of something. -/
  | part
  /-- An item that stands for several. -/
  | starred (items : Expression)
  | other
  deriving Inhabited

namespace Expression

/-- The number that an unsigned constant is. -/
def number? : Expression → Except Unread Value
  | constant (.int n) => pure (.int n)
  | constant (.float x) => pure (.float x)
  | constant (.complex re im) => pure (.complex re im)
  | _ => throw .malformed

def negated : Value → Value
  | .int n => .int (-n)
  | .float x => .float x.negate
  | .complex re im => .complex re.negate im.negate
  | v => v

/-- The number that a constant with at most one sign is. -/
def signedNumber? : Expression → Except Unread Value
  | signed negative operand => do
    let v ← operand.number?
    pure (if negative then negated v else v)
  | e => e.number?

/-- A real number as a double. -/
def real? : Value → Except Unread Binary64
  | .int n =>
    let x := Binary64.ofInt n
    if x.isFinite then pure x else throw .tooLarge
  | .float x => pure x
  | _ => throw .malformed

/-- Adding a zero makes a negative zero positive. -/
def plusZero (x : Binary64) : Binary64 := if x.isZero then .zero false else x

/-- The sum or difference of a real number and an imaginary one. -/
def sum? (negative : Bool) (left right : Value) : Except Unread Value :=
  match right with
  | .complex _ im => do
    let re ← real? left
    pure (if negative then .complex re (plusZero im.negate)
      else .complex (plusZero re) (plusZero im))
  | _ => throw .malformed

mutual
/-- The plain data that an expression denotes, found from the left: what is too large counts only if
nothing malformed stands before it. -/
def value? : Expression → Except Unread Value
  | constant v => pure v
  | emptySet => pure (.set [])
  | tuple items => do pure (.tuple (← values? items))
  | list items => do pure (.list (← values? items))
  | set items => do pure (.set (Value.setOf (← keys? items)))
  | dict entries => do pure (.dict (Value.dictOf (← entries? entries)))
  | signed negative operand => signedNumber? (signed negative operand)
  | sum negative left right => do
    let l ← left.signedNumber?
    let r ← right.number?
    sum? negative l r
  | name _ => throw .malformed
  | part => throw .malformed
  | starred _ => throw .malformed
  | other => throw .malformed
def values? : List Expression → Except Unread (List Value)
  | [] => pure []
  | e :: rest => do
    let v ← value? e
    pure (v :: (← values? rest))
/-- The values of expressions that all must be keys. -/
def keys? : List Expression → Except Unread (List Value)
  | [] => pure []
  | e :: rest => do
    let v ← value? e
    if v.isHashable then pure (v :: (← keys? rest)) else throw .malformed
def entries? : List (Expression × Expression) → Except Unread (List (Value × Value))
  | [] => pure []
  | (k, e) :: rest => do
    let key ← value? k
    let v ← value? e
    if key.isHashable then pure ((key, v) :: (← entries? rest)) else throw .malformed
end

mutual
/-- Whether a value can be bound to an expression. -/
def isTarget : Expression → Bool
  | name _ => true
  | part => true
  | tuple items => areTargets items
  | list items => areTargets items
  | starred e => isTarget e
  | _ => false
def areTargets : List Expression → Bool
  | [] => true
  | e :: rest => isTarget e && areTargets rest
end

def isStarred : Expression → Bool
  | starred _ => true
  | _ => false

end Expression
end MacroStubs
