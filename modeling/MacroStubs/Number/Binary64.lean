/-! # Doubles

A finite double is a sign, a whole significand below `2 ^ 53` and a power of two not below
`2 ^ (-1074)`. Ratios and decimals are rounded to the nearest double, a tie to the even
significand.
-/

namespace MacroStubs

inductive Binary64 where
  | nan
  | infinity (negative : Bool)
  | finite (negative : Bool) (significand : Nat) (exponent : Int)
  deriving DecidableEq, Repr, Inhabited

namespace Binary64

def powTwo (k : Nat) : Nat := Nat.pow 2 k

def powTen (k : Nat) : Nat := Nat.pow 10 k

def zero (negative : Bool) : Binary64 := finite negative 0 (-1074)

/-- The whole number nearest to a ratio, the even one of two. -/
def roundHalfEven (num den : Nat) : Nat :=
  let q := num / den
  let r := num % den
  if 2 * r < den then q else if den < 2 * r then q + 1 else q + q % 2

/-- The ratio divided by a power of two. -/
def scaleDown (num den : Nat) : Int → Nat × Nat
  | .ofNat k => (num, den * powTwo k)
  | .negSucc k => (num * powTwo (k + 1), den)

/-- The exponent that puts the significand of a positive ratio between `2 ^ 52` and `2 ^ 53`. -/
def normalExponent (num den : Nat) : Int :=
  let e : Int := (num.log2 : Int) - (den.log2 : Int) - 52
  let (n, d) := scaleDown num den e
  if n < powTwo 52 * d then e - 1 else e

/-- The double nearest to a ratio. -/
def ofRatio (negative : Bool) (num den : Nat) : Binary64 :=
  if num = 0 then zero negative
  else
    let e := max (normalExponent num den) (-1074)
    let (n, d) := scaleDown num den e
    let m := roundHalfEven n d
    let (m, e) := if m = powTwo 53 then (powTwo 52, e + 1) else (m, e)
    if 971 < e then infinity negative else finite negative m e

/-- The double nearest to `digits * 10 ^ exponent`. Beyond 400 places on either side of the point
the answer is infinite or zero, whatever the digits. -/
def ofDecimal (negative : Bool) (digits : Nat) (exponent : Int) : Binary64 :=
  let places : Int := ((Nat.toDigits 10 digits).length : Int) + exponent
  if digits = 0 ∨ places < -400 then zero negative
  else if 400 < places then infinity negative
  else
    match exponent with
    | .ofNat k => ofRatio negative (digits * powTen k) 1
    | .negSucc k => ofRatio negative digits (powTen (k + 1))

/-- The double nearest to a whole number. -/
def ofInt (n : Int) : Binary64 := ofRatio (n < 0) n.natAbs 1

def isNegative : Binary64 → Bool
  | nan => false
  | infinity s => s
  | finite s _ _ => s

def isZero : Binary64 → Bool
  | finite _ 0 _ => true
  | _ => false

def negate : Binary64 → Binary64
  | nan => nan
  | infinity s => infinity !s
  | finite s m e => finite (!s) m e

def isFinite : Binary64 → Bool
  | finite .. => true
  | _ => false

/-- Equality of numbers: nothing equals a NaN, and the two zeros are equal. -/
def same : Binary64 → Binary64 → Bool
  | finite s m e, finite s' m' e' => (m == 0 && m' == 0) || (s == s' && m == m' && e == e')
  | infinity s, infinity s' => s == s'
  | _, _ => false

/-- Whether a double is a whole number, and this one. -/
def isInt (x : Binary64) (n : Int) : Bool :=
  match x with
  | finite s m e =>
    let k : Int := if s then -(m : Int) else m
    match e with
    | .ofNat j => n == k * (powTwo j : Int)
    | .negSucc j => n * (powTwo (j + 1) : Int) == k
  | _ => false

end Binary64
end MacroStubs
