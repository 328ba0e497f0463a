import MacroStubs.Catalogue
import MacroStubs.Text.Quoted

/-! # Printed forms

The printed form of a value. Plain data print as literals; an object prints as it likes, or not at
all. Printing fails on a whole number of more than 4300 digits and on values nested too deeply.
-/

namespace MacroStubs

/-- How the things of a world that have no literal form are named. -/
structure Labels where
  classOf : Value → ClassId
  nameOf : ClassId → String
  /-- The name of a class in messages about its objects. -/
  labelOf : ClassId → String
  /-- The qualified name of a class, with its module. -/
  fullNameOf : ClassId → String
  /-- The name of a function, or of what stands for one in a method. -/
  functionName : Value → String
  /-- The printed form of an object. -/
  objectText : Value → Except Failure (List Char)
  /-- What stands for a place in memory. -/
  address : String

namespace Labels

/-- The name of the class of a value. -/
def typeName (l : Labels) (v : Value) : String := l.nameOf (l.classOf v)

/-- The name of the class of a value in messages about it. -/
def typeLabel (l : Labels) (v : Value) : String := l.labelOf (l.classOf v)

/-- Names where there is no world. -/
def plain (address : String) : Labels where
  classOf v := .builtin v.builtinClass
  nameOf
    | .builtin name => name
    | .defined id => id
  labelOf
    | .builtin name => Catalogue.label name
    | .defined id => id
  fullNameOf
    | .builtin name => Catalogue.label name
    | .defined id => id
  functionName
    | .function _ name .. => name
    | _ => "wrapper"
  objectText v := pure s!"<{v.builtinClass} object at {address}>".toList
  address

end Labels

namespace Value
open Text Number

def maxDigits : Nat := 4300

/-- How many containers may be nested in a value that is to be printed. -/
def maxNesting : Nat := 990

def intText (n : Int) : List Char :=
  if n < 0 then '-' :: Nat.toDigits 10 n.natAbs else Nat.toDigits 10 n.natAbs

def printInt (n : Int) : Except Failure (List Char) :=
  let text := intText n
  if maxDigits < (Nat.toDigits 10 n.natAbs).length then throw .tooManyDigits else pure text

/-- Pieces with a comma and a blank between each two. -/
def commas : List (List Char) → List Char
  | [] => []
  | [piece] => piece
  | piece :: rest => piece ++ ',' :: ' ' :: commas rest

def bracketed (opening closing : String) (pieces : List (List Char)) : List Char :=
  opening.toList ++ commas pieces ++ closing.toList

/-- A tuple of one item keeps a comma. -/
def tupleText : List (List Char) → List Char
  | [piece] => '(' :: piece ++ [',', ')']
  | pieces => '(' :: commas pieces ++ [')']

def cycleText : Cycle → String
  | .list => "[[...]]"
  | .dict => "\x7b1: \x7b...\x7d\x7d"
  | .tuple => "([(...)],)"
  | .listOfDict => "[\x7b'k': [...]\x7d]"

/-- The printed form of a member as its class keeps it. -/
def memberText (owner : ClassId) (ownerLabel name : String) : String :=
  let kind := match Catalogue.kindOf owner name with
    | .special => "slot wrapper"
    | .field => "member"
    | .computed => "attribute"
    | _ => "method"
  s!"<{kind} '{name}' of '{ownerLabel}' objects>"

variable (labels : Labels)

def functionText (name : String) : List Char :=
  s!"<function {name} at {labels.address}>".toList

mutual
/-- The printed form of a value with room for `depth` nested containers. -/
def print (depth : Nat) : Value → Except Failure (List Char)
  | null => pure "None".toList
  | bool true => pure "True".toList
  | bool false => pure "False".toList
  | int n => printInt n
  | float x => pure (floatText true x)
  | complex re im => pure (complexText re im)
  | str s => pure (quoted s.toList)
  | bytes data => pure (quotedBytes data)
  | bytearray data => pure ("bytearray(".toList ++ quotedBytes data ++ [')'])
  | list items =>
    match depth with
    | 0 => throw .nestingTooDeep
    | depth + 1 => do pure (bracketed "[" "]" (← printItems depth items))
  | tuple items =>
    match depth with
    | 0 => throw .nestingTooDeep
    | depth + 1 => do pure (tupleText (← printItems depth items))
  | set [] => pure "set()".toList
  | set items =>
    match depth with
    | 0 => throw .nestingTooDeep
    | depth + 1 => do pure (bracketed "\x7b" "\x7d" (← printItems depth items))
  | frozenset [] => pure "frozenset()".toList
  | frozenset items =>
    match depth with
    | 0 => throw .nestingTooDeep
    | depth + 1 => do pure (bracketed "frozenset(\x7b" "\x7d)" (← printItems depth items))
  | dict entries =>
    match depth with
    | 0 => throw .nestingTooDeep
    | depth + 1 => do pure (bracketed "\x7b" "\x7d" (← printEntries depth entries))
  | mapping _ => pure "<mapping>".toList
  | mappingproxy entries =>
    match depth with
    | 0 => throw .nestingTooDeep
    | depth + 1 => do
      pure (bracketed "mappingproxy(\x7b" "\x7d)" (← printEntries depth entries))
  | range start stop step =>
    if step = 1 then do pure (bracketed "range(" ")" [← printInt start, ← printInt stop])
    else do pure (bracketed "range(" ")" [← printInt start, ← printInt stop, ← printInt step])
  | ellipsis => pure "Ellipsis".toList
  | custom (str s) => pure s.toList
  | custom v => throw (.printedNonText (labels.typeLabel v))
  | raising failure => throw (.raised failure)
  | cyclic shape => pure (cycleText shape).toList
  | function id name ps doc outcome =>
    pure (functionText labels (labels.functionName (function id name ps doc outcome)))
  | wrapped id inner => pure (functionText labels (labels.functionName (wrapped id inner)))
  | native n => pure (functionText labels (labels.functionName (native n)))
  | builtin b => pure s!"<built-in function {b.name}>".toList
  | partialCall _ inner arguments keywords =>
    match depth with
    | 0 => throw .nestingTooDeep
    | depth + 1 => do
      let pieces := (← print depth inner) :: (← printItems depth arguments) ++
        (← printKeywords depth keywords)
      pure (bracketed "functools.partial(" ")" pieces)
  | staticMethod _ inner =>
    match depth with
    | 0 => throw .nestingTooDeep
    | depth + 1 => do pure (bracketed "<staticmethod(" ")>" [← print depth inner])
  | classMethod _ inner =>
    match depth with
    | 0 => throw .nestingTooDeep
    | depth + 1 => do pure (bracketed "<classmethod(" ")>" [← print depth inner])
  | property .. => pure s!"<property object at {labels.address}>".toList
  | bound _ inner self =>
    match depth with
    | 0 => throw .nestingTooDeep
    | depth + 1 => do
      let receiver := String.ofList (← print depth self)
      pure s!"<bound method {labels.functionName inner} of {receiver}>".toList
  | member owner name => pure (memberText owner (labels.labelOf owner) name).toList
  | memberOf owner name self =>
    let kind := match Catalogue.kindOf owner name with
      | .special => "method-wrapper '" ++ name ++ "'"
      | _ => "built-in method " ++ name
    pure s!"<{kind} of {labels.typeLabel self} object at {labels.address}>".toList
  | cls c => pure s!"<class '{labels.fullNameOf c}'>".toList
  | objectRef id => labels.objectText (objectRef id)
  | fresh c => labels.objectText (fresh c)
  | missing => pure s!"<object object at {labels.address}>".toList
  | moduleRef name => pure s!"<module '{name}'>".toList
  | callRecord name _ => pure s!"<call of {name}>".toList
  | anonymous name => pure s!"<{name} object at {labels.address}>".toList
def printItems (depth : Nat) : List Value → Except Failure (List (List Char))
  | [] => pure []
  | v :: rest => do
    let text ← print depth v
    pure (text :: (← printItems depth rest))
def printEntries (depth : Nat) : List (Value × Value) → Except Failure (List (List Char))
  | [] => pure []
  | (k, v) :: rest => do
    let key ← print depth k
    let value ← print depth v
    pure ((key ++ ':' :: ' ' :: value) :: (← printEntries depth rest))
def printKeywords (depth : Nat) : List (String × Value) → Except Failure (List (List Char))
  | [] => pure []
  | (name, v) :: rest => do
    let value ← print depth v
    pure ((name.toList ++ '=' :: value) :: (← printKeywords depth rest))
end

/-- The printed form of a value. -/
def printed (v : Value) : Except Failure (List Char) := print labels maxNesting v

/-- The printed form of a value as a text. -/
def text (v : Value) : Except Failure String := (printed labels v).map String.ofList

/-- A value within a message: a text stands for itself. -/
def shown : Value → Except Failure String
  | str s => pure s
  | v => text labels v

/-- The text of a failure to find a name on an owner, whatever values the two are. -/
def notFoundText (owner name : Value) : Except Failure String := do
  let owner ← shown labels owner
  let name ← text labels name
  pure (Failure.notFoundText owner name)

end Value
end MacroStubs
