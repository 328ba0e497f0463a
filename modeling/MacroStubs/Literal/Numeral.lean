import MacroStubs.Number.Decimal
import MacroStubs.Value

/-! # Numerals

The unsigned numbers of an expression: whole numbers to four bases, decimals with a point or an
exponent, and imaginary numbers.
-/

namespace MacroStubs.Literal
open Number

/-- Whether a character can stand in a word, so that a number before it would not end. -/
def isWordChar (c : Char) : Bool :=
  c.isAlphanum || c == '_' || 128 ≤ c.toNat

/-- The words that may follow a number without a blank. -/
def wordsBehindNumber : List String :=
  ["and", "else", "for", "if", "in", "is", "not", "or"]

def wordFollows (cs : List Char) : Bool :=
  wordsBehindNumber.any fun w => w.toList.isPrefixOf cs

/-- What was read, if it may end here. -/
def ended {α : Type} (v : α) : List Char → Option (α × List Char)
  | [] => some (v, [])
  | c :: rest =>
    if isWordChar c && !wordFollows (c :: rest) then none else some (v, c :: rest)

def digitOf (c : Char) : Nat :=
  if isDigit c then digitValue c else (c.toLower.toNat - 97) + 10

def isHexDigit (c : Char) : Bool :=
  isDigit c || ('a' ≤ c.toLower && c.toLower ≤ 'f')

/-- The number that digits denote to a base. -/
def natOfBase (base : Nat) (ds : List Char) : Nat :=
  ds.foldl (fun n c => base * n + digitOf c) 0

/-- The base that a letter behind a zero names, with its digits. -/
def baseOf? (c : Char) : Option (Nat × (Char → Bool)) :=
  if c = 'x' ∨ c = 'X' then some (16, isHexDigit)
  else if c = 'o' ∨ c = 'O' then some (8, fun c => '0' ≤ c && c ≤ '7')
  else if c = 'b' ∨ c = 'B' then some (2, fun c => c == '0' || c == '1')
  else none

/-- How many digits a whole number may have. -/
def maxLiteralDigits : Nat := 4300

/-- Whole digits without point, exponent or imaginary mark. Zeros may lead only other zeros, and
more than 4300 digits are refused. -/
def wholeNumber? (ds rest : List Char) : Option (Value × List Char) :=
  if ds.head? = some '0' then
    if ds.all (· == '0') then ended (.int 0) rest else none
  else if maxLiteralDigits < ds.length then none
  else ended (.int (natOfDigits ds)) rest

/-- What follows the digits before a point: the fraction, the exponent and the imaginary mark. -/
def decimal? (ds rest : List Char) : Option (Value × List Char) := do
  let (fraction, point, rest) ← match rest with
    | '.' :: r => (digitRun? isDigit r).map fun (fs, r) => (fs, true, r)
    | r => some ([], false, r)
  if (ds ++ fraction).isEmpty then none
  let (exponent, rest) ← if wordFollows rest then some (none, rest) else exponent? rest
  let x := DecimalText.value false { whole := ds, fraction, exponent := exponent.getD 0 }
  match rest with
  | 'j' :: r => ended (.complex (.zero false) x) r
  | 'J' :: r => ended (.complex (.zero false) x) r
  | r => if point || exponent.isSome then ended (.float x) r else wholeNumber? ds r

/-- A number without a sign. -/
def number? : List Char → Option (Value × List Char)
  | '0' :: c :: rest =>
    match baseOf? c with
    | some (base, p) => do
      let (ds, r) ← digitTail? p rest
      if ds.isEmpty then none else ended (.int (natOfBase base ds)) r
    | none => do
      let (ds, r) ← digitRun? isDigit ('0' :: c :: rest)
      decimal? ds r
  | cs => do
    let (ds, r) ← digitRun? isDigit cs
    decimal? ds r

end MacroStubs.Literal
