import MacroStubs.Number.Decimal
import MacroStubs.Text.Blank
import MacroStubs.Text.Digit

/-! # Reading numbers from texts

A number may stand between white space, and its digits may be those of any script.
-/

namespace MacroStubs.Number

/-- White space; the information separators do not count. -/
def isMargin (c : Char) : Bool :=
  Text.isBlank c && !(28 ≤ c.toNat && c.toNat ≤ 31)

/-- A decimal digit of any script as the one of ASCII. -/
def asciiDigit (c : Char) : Char :=
  match Text.zeros.find? fun z => z ≤ c.toNat && c.toNat < z + 10 with
  | some z => Char.ofNat ('0'.toNat + (c.toNat - z))
  | none => c

/-- The characters of a number without the white space around it. -/
def numeral (s : String) : List Char :=
  (Text.dropEndWhile isMargin (s.toList.dropWhile isMargin)).map asciiDigit

/-- The double that a text denotes. -/
def floatOf? (s : String) : Option Binary64 := readFloat? (numeral s)

/-- The sign and the digits of the whole number that a text denotes. -/
def signedDigits? (s : String) : Option (Bool × List Char) := do
  let (negative, cs) := match numeral s with
    | '-' :: r => (true, r)
    | '+' :: r => (false, r)
    | r => (false, r)
  match digitRun? isDigit cs with
  | some (ds, []) => if ds.isEmpty then none else some (negative, ds)
  | _ => none

end MacroStubs.Number
