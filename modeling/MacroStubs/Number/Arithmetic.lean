import MacroStubs.Number.Binary64

/-! # Arithmetic of doubles

Sums, products and quotients of doubles, and the whole numbers beside a double. A finite result is the
double nearest to the exact one.
-/

namespace MacroStubs.Binary64

/-- The ratio `(-1) ^ negative * m * 2 ^ e`. -/
def ratioOf (negative : Bool) (m : Nat) (e : Int) : Int × Nat :=
  let signed (n : Nat) : Int := if negative then -(n : Int) else n
  match e with
  | .ofNat j => (signed (m * powTwo j), 1)
  | .negSucc j => (signed m, powTwo (j + 1))

def add : Binary64 → Binary64 → Binary64
  | nan, _ | _, nan => nan
  | infinity s, infinity t => if s = t then infinity s else nan
  | infinity s, _ | _, infinity s => infinity s
  | finite s m e, finite t n f =>
    let (a, b) := ratioOf s m e
    let (c, d) := ratioOf t n f
    let sum := a * d + c * b
    if sum = 0 then zero (s && t) else ofRatio (sum < 0) sum.natAbs (b * d)

def mul : Binary64 → Binary64 → Binary64
  | nan, _ | _, nan => nan
  | infinity s, y => if y.isZero then nan else infinity (s != y.isNegative)
  | x, infinity t => if x.isZero then nan else infinity (x.isNegative != t)
  | finite s m e, finite t n f =>
    let (a, b) := ratioOf s m e
    let (c, d) := ratioOf t n f
    if m = 0 || n = 0 then zero (s != t) else ofRatio (s != t) (a * c).natAbs (b * d)

/-- The quotient by a double that is not zero. -/
def div : Binary64 → Binary64 → Binary64
  | nan, _ | _, nan => nan
  | infinity _, infinity _ => nan
  | infinity s, y => infinity (s != y.isNegative)
  | x, infinity t => zero (x.isNegative != t)
  | finite s m e, finite t n f =>
    let (a, b) := ratioOf s m e
    let (c, d) := ratioOf t n f
    if m = 0 then zero (s != t) else ofRatio (s != t) (a.natAbs * d) (b * c.natAbs)

def abs (x : Binary64) : Binary64 := if x.isNegative then x.negate else x

/-- What is left of a double when another one that is not zero is taken away as often as it goes,
with the sign of the first. -/
def remainder : Binary64 → Binary64 → Binary64
  | nan, _ | _, nan | infinity _, _ => nan
  | x, infinity _ => x
  | finite s m e, finite t n f =>
    let (a, b) := ratioOf s m e
    let (c, d) := ratioOf t n f
    let left := Int.tmod (a * d) (c * b)
    if left = 0 then zero s else ofRatio s left.natAbs (b * d)

/-- The greatest whole number not above a double. -/
def floor : Binary64 → Binary64
  | finite s m e =>
    let (a, b) := ratioOf s m e
    if m = 0 then finite s m e else ofInt (a.fdiv b)
  | x => x

/-- The quotient rounded down and what is left, with the sign of the divisor, which is not zero. -/
def divide (x y : Binary64) : Binary64 × Binary64 :=
  let left := x.remainder y
  let quotient := (x.add left.negate).div y
  let (quotient, left) :=
    if left.isZero then (quotient, zero y.isNegative)
    else if y.isNegative != left.isNegative then (quotient.add (ofInt (-1)), left.add y)
    else (quotient, left)
  let below := quotient.floor
  let rest := quotient.add below.negate
  let isMore := !rest.isNegative && match rest with
    | finite s m e =>
      let (a, b) := ratioOf s m e
      decide ((b : Int) < 2 * a)
    | _ => false
  let whole :=
    if quotient.isZero then zero (x.isNegative != y.isNegative)
    else if isMore then below.add (ofInt 1)
    else below
  (whole, left)

/-- The double nearest to `x` among the decimals with so many places, a half to the even one. -/
def roundedTo (places : Int) (x : Binary64) : Binary64 :=
  match x with
  | finite s m e =>
    if m = 0 || 323 < places then x
    else if places < -308 then zero s
    else
      let (a, b) := ratioOf false m e
      match places with
      | .ofNat k => ofRatio s (roundHalfEven (a.natAbs * powTen k) b) (powTen k)
      | .negSucc k =>
        ofRatio s (roundHalfEven a.natAbs (b * powTen (k + 1)) * powTen (k + 1)) 1
  | x => x

end MacroStubs.Binary64
