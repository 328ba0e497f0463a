import MacroStubs.Number.Binary64

/-! # Shortest digits

The fewest decimal digits that lie within the interval of numbers rounding to a double; of several
such decimals, the one nearest to it.
-/

namespace MacroStubs.Number
open Binary64

/-- A positive decimal `0.d₁d₂… * 10 ^ point`. -/
structure Digits where
  digits : List Char
  point : Int
  deriving DecidableEq, Repr

/-- The exponent `k` with `10 ^ (k - 1) ≤ num / den < 10 ^ k`. -/
def decimalPoint (num den : Nat) : Int :=
  let k : Int := (Nat.toDigits 10 num).length - (Nat.toDigits 10 den).length
  let below : Bool := match k with
    | .ofNat j => num < den * powTen j
    | .negSucc j => num * powTen (j + 1) < den
  if below then k else k + 1

/-- A double between the two midpoints to its neighbours, as numerators over one denominator. -/
structure Interval where
  low : Nat
  value : Nat
  high : Nat
  den : Nat
  closed : Bool

/-- The numbers that round to the double `m * 2 ^ e`. -/
def interval (m : Nat) (e : Int) : Interval :=
  let below := if m = powTwo 52 ∧ -1074 < e then 1 else 2
  let (unit, den) := match e - 2 with
    | .ofNat k => (powTwo k, 1)
    | .negSucc k => (1, powTwo (k + 1))
  { low := (4 * m - below) * unit, value := 4 * m * unit, high := (4 * m + 2) * unit, den
    closed := m % 2 == 0 }

/-- The interval measured in steps of `10 ^ p`. -/
def Interval.inSteps (i : Interval) : Int → Interval
  | .ofNat k => { i with den := i.den * powTen k }
  | .negSucc k =>
    let f := powTen (k + 1)
    { i with low := i.low * f, value := i.value * f, high := i.high * f }

def Interval.holds (i : Interval) (c : Nat) : Bool :=
  if i.closed then i.low ≤ c * i.den && c * i.den ≤ i.high
  else i.low < c * i.den && c * i.den < i.high

/-- The grid point in the interval that is nearest to its value, the even one of two. -/
def Interval.nearest? (i : Interval) : Option Nat :=
  let c := i.value / i.den
  match i.holds c, i.holds (c + 1) with
  | false, false => none
  | true, false => some c
  | false, true => some (c + 1)
  | true, true => some (roundHalfEven i.value i.den)

/-- The first of `n` counts of digits, from `count` on, whose grid hits the interval. -/
def scan (i : Interval) (point : Int) : Nat → Nat → Nat × Nat
  | 0, count => (i.value / i.den, count)
  | n + 1, count =>
    match (i.inSteps (point - count)).nearest? with
    | some c => (c, count)
    | none => scan i point n (count + 1)

def dropTrailingZeros (cs : List Char) : List Char :=
  (cs.reverse.dropWhile (· = '0')).reverse

/-- The shortest digits of the positive double `m * 2 ^ e`. -/
def shortest (m : Nat) (e : Int) : Digits :=
  let i := interval m e
  let point := decimalPoint i.value i.den
  let (c, count) := scan i point 17 1
  let cs := Nat.toDigits 10 c
  { digits := dropTrailingZeros cs, point := point + cs.length - count }

end MacroStubs.Number
