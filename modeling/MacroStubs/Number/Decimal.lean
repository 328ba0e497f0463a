import MacroStubs.Number.Shortest

/-! # Decimal text of doubles

A double is written with its shortest digits: positionally when its leading digit stands between the
fourth place behind the point and the sixteenth before it, else with an exponent of at least two
digits. Reading accepts digits in groups joined by single low lines.
-/

namespace MacroStubs.Number
open Binary64

def exponentText (x : Int) : List Char :=
  let ds := Nat.toDigits 10 x.natAbs
  'e' :: (if x < 0 then '-' else '+') :: (if ds.length < 2 then '0' :: ds else ds)

/-- The text of a positive decimal; `point` tells whether a whole number keeps a `.0`. -/
def positiveText (point : Bool) (d : Digits) : List Char :=
  let n : Int := d.digits.length
  if -4 < d.point ∧ d.point ≤ 16 then
    if d.point ≤ 0 then '0' :: '.' :: List.replicate d.point.natAbs '0' ++ d.digits
    else if n ≤ d.point then
      d.digits ++ List.replicate (d.point - n).toNat '0' ++ (if point then ['.', '0'] else [])
    else d.digits.take d.point.toNat ++ '.' :: d.digits.drop d.point.toNat
  else
    let mantissa := match d.digits with
      | [] => []
      | [c] => [c]
      | c :: rest => c :: '.' :: rest
    mantissa ++ exponentText (d.point - 1)

def magnitudeText (point : Bool) : Binary64 → List Char
  | nan => ['n', 'a', 'n']
  | infinity _ => ['i', 'n', 'f']
  | finite _ 0 _ => if point then ['0', '.', '0'] else ['0']
  | finite _ m e => positiveText point (shortest m e)

/-- The text of a double. -/
def floatText (point : Bool) (x : Binary64) : List Char :=
  if x.isNegative then '-' :: magnitudeText point x else magnitudeText point x

/-- The text of a complex number: the imaginary part alone if the real part is a positive zero. -/
def complexText (re im : Binary64) : List Char :=
  if re.isZero && !re.isNegative then floatText false im ++ ['j']
  else
    let sign := if im.isNegative then [] else ['+']
    '(' :: floatText false re ++ sign ++ floatText false im ++ ['j', ')']

def digitValue (c : Char) : Nat := c.toNat - 48

/-- The number that decimal digits denote. -/
def natOfDigits (ds : List Char) : Nat :=
  ds.foldl (fun n c => 10 * n + digitValue c) 0

def isDigit (c : Char) : Bool := '0' ≤ c && c ≤ '9'

/-- What follows a digit: further digits that `p` accepts, single low lines between two digits left
out, and the rest. None when a low line is not followed by a digit. -/
def digitTail? (p : Char → Bool) : List Char → Option (List Char × List Char)
  | [] => some ([], [])
  | ['_'] => none
  | '_' :: d :: rest =>
    if p d then (digitTail? p rest).map fun (ds, r) => (d :: ds, r) else none
  | c :: rest =>
    if p c then (digitTail? p rest).map fun (ds, r) => (c :: ds, r) else some ([], c :: rest)

/-- A run of digits, which may be empty, and the rest. -/
def digitRun? (p : Char → Bool) : List Char → Option (List Char × List Char)
  | [] => some ([], [])
  | c :: rest =>
    if p c then (digitTail? p rest).map fun (ds, r) => (c :: ds, r) else some ([], c :: rest)

/-- The parts of a decimal that holds a point or an exponent. -/
structure DecimalText where
  whole : List Char
  fraction : List Char := []
  exponent : Int := 0

def DecimalText.value (negative : Bool) (t : DecimalText) : Binary64 :=
  ofDecimal negative (natOfDigits (t.whole ++ t.fraction)) (t.exponent - t.fraction.length)

/-- An exponent mark with its digits, and the rest; no mark is the exponent zero. -/
def exponent? : List Char → Option (Option Int × List Char)
  | [] => some (none, [])
  | c :: rest =>
    if c = 'e' ∨ c = 'E' then
      let (negative, rest) := match rest with
        | '-' :: r => (true, r)
        | '+' :: r => (false, r)
        | r => (false, r)
      match digitRun? isDigit rest with
      | some (d :: ds, r) =>
        let n : Int := natOfDigits (d :: ds)
        some (some (if negative then -n else n), r)
      | _ => none
    else some (none, c :: rest)

def lower (cs : List Char) : List Char := cs.map Char.toLower

/-- The double that a whole text denotes. -/
def readFloat? (cs : List Char) : Option Binary64 :=
  let (negative, cs) := match cs with
    | '-' :: r => (true, r)
    | '+' :: r => (false, r)
    | r => (false, r)
  let word := String.ofList (lower cs)
  if word = "inf" ∨ word = "infinity" then some (infinity negative)
  else if word = "nan" then some nan
  else do
    let (whole, rest) ← digitRun? isDigit cs
    let (fraction, rest) ← match rest with
      | '.' :: r => digitRun? isDigit r
      | r => some ([], r)
    let (exponent, rest) ← exponent? rest
    if rest.isEmpty ∧ ¬ (whole ++ fraction).isEmpty then
      some (DecimalText.value negative { whole, fraction, exponent := exponent.getD 0 })
    else none

end MacroStubs.Number
