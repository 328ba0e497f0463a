import MacroStubs.Value.Method.Basic
import MacroStubs.Value.Order

/-! # Methods of numbers

What the methods of whole numbers, doubles and complex numbers give.
-/

namespace MacroStubs.Value.Method

/-- How many bits of a number are set. -/
def bitCount : Nat → Nat → Nat
  | 0, _ => 0
  | fuel + 1, n => n % 2 + bitCount fuel (n / 2)

/-- The lowest bytes of a number, the lowest first. -/
def lowBytes : Nat → Int → List UInt8
  | 0, _ => []
  | k + 1, n => UInt8.ofNat (n.emod 256).toNat :: lowBytes k (n.fdiv 256)

/-- The number that bytes are, the lowest first. -/
def ofLowBytes : List UInt8 → Nat
  | [] => 0
  | b :: rest => b.toNat + 256 * ofLowBytes rest

/-- Whether bytes are written with the highest one first. -/
def isHighFirst (order : String) : Except Failure Bool :=
  match order with
  | "big" => pure true
  | "little" => pure false
  | _ => valueError "byteorder must be either 'little' or 'big'"

/-- A number as so many bytes. -/
def toBytes (n : Int) (length : Int) (order : String) (signed : Bool) : Except Failure Value := do
  let highFirst ← isHighFirst order
  if length < 0 then valueError "length argument must be non-negative"
  else
    let k := length.toNat
    let fits : Bool :=
      if signed then
        decide (-(Binary64.powTwo (8 * k - 1) : Int) ≤ n ∧ n < Binary64.powTwo (8 * k - 1))
      else decide (n < Binary64.powTwo (8 * k))
    if n < 0 && !signed then
      throw (.thrown { kind := "OverflowError", message := "can't convert negative int to unsigned" })
    else if (k = 0 && n != 0) || (k != 0 && !fits) then
      throw (.thrown { kind := "OverflowError", message := "int too big to convert" })
    else
      let data := lowBytes k n
      pure (bytes (if highFirst then data.reverse else data))

/-- The number that bytes are. -/
def fromBytes (data : List UInt8) (order : String) (signed : Bool) : Except Failure Value := do
  let low := if ← isHighFirst order then data.reverse else data
  let n := ofLowBytes low
  let isNegative := signed && (low.getLast?.map fun b => decide (128 ≤ b.toNat)).getD false
  pure (int (if isNegative then (n : Int) - Binary64.powTwo (8 * data.length) else n))

/-- The bytes that a value is made into. -/
def bytesFrom (v : Value) : Except Failure (List UInt8) :=
  match v with
  | bytes data | bytearray data => pure data
  | str _ => throw (.builtinRefused "cannot convert 'str' object to bytes")
  | v =>
    match v.items? with
    | some items => items.mapM fun item => do
      let n ← number item
      if 0 ≤ n ∧ n < 256 then pure (UInt8.ofNat n.toNat)
      else valueError "bytes must be in range(0, 256)"
    | none => throw (.builtinRefused "cannot convert the object to bytes")

/-- A method of a whole number. -/
def ofInt (n : Int) (name : String) (arguments : List Value) : Except Failure Value :=
  match name, arguments with
  | "bit_length", [] => pure (int (if n = 0 then 0 else n.natAbs.log2 + 1))
  | "bit_count", [] => pure (int (bitCount (n.natAbs.log2 + 1) n.natAbs))
  | "conjugate", [] => pure (int n)
  | "as_integer_ratio", [] => pure (tuple [int n, int 1])
  | "to_bytes", [length, str order, signed] => do toBytes n (← number length) order signed.isTrue
  | "from_bytes", [data, str order, signed] => do
    let _ ← isHighFirst order
    fromBytes (← bytesFrom data) order signed.isTrue
  | name, _ => refuse "int" name

/-- The digits of a double in base sixteen. -/
def hexText : Binary64 → List Char
  | .nan => "nan".toList
  | .infinity negative => (if negative then "-inf" else "inf").toList
  | .finite negative m e =>
    let sign := if negative then ['-'] else []
    if m = 0 then sign ++ "0x0.0p+0".toList
    else
      let normal := decide (Binary64.powTwo 52 ≤ m)
      let exponent := e + 52
      let fraction := if normal then m - Binary64.powTwo 52 else m
      sign ++ '0' :: 'x' :: (if normal then '1' else '0') :: '.' :: Text.hexDigits 13 fraction ++
        'p' :: (if exponent < 0 then '-' else '+') :: (toString exponent.natAbs).toList

/-- A digit in base sixteen. -/
def hexDigit? (c : Char) : Option Nat :=
  let d := c.toLower
  if c.isDigit then some (c.toNat - 48)
  else if 'a' ≤ d && d ≤ 'f' then some (d.toNat - 87)
  else none

/-- The number that digits in base sixteen denote behind `n`. -/
def hexNumber (n : Nat) (ds : List Char) : Nat :=
  ds.foldl (fun n c => 16 * n + (hexDigit? c).getD 0) n

/-- The exponent behind the digits of a number in base sixteen. -/
def hexExponent? : List Char → Option Int
  | [] => some 0
  | 'p' :: '-' :: ds => (digits? ds).map fun n => -(n : Int)
  | 'p' :: '+' :: ds => (digits? ds).map Int.ofNat
  | 'p' :: ds => (digits? ds).map Int.ofNat
  | _ => none
where
  digits? (ds : List Char) : Option Nat :=
    if ds.isEmpty || !ds.all Char.isDigit || 8 < ds.length then none
    else some (ds.foldl (fun n c => 10 * n + (c.toNat - 48)) 0)

/-- The double that the digits of a number in base sixteen denote. -/
def ofHexDigits? (negative : Bool) (cs : List Char) : Option Binary64 := do
  let isHex (c : Char) : Bool := (hexDigit? c).isSome
  let whole := cs.takeWhile isHex
  let (fraction, rest) := match cs.dropWhile isHex with
    | '.' :: rest => (rest.takeWhile isHex, rest.dropWhile isHex)
    | rest => ([], rest)
  let exponent ← hexExponent? rest
  let m := hexNumber (hexNumber 0 whole) fraction
  if whole.isEmpty && fraction.isEmpty then none
  else if m = 0 then some (.zero negative)
  else
    match exponent - 4 * (fraction.length : Int) with
    | .ofNat k =>
      some (if 2000 < k then .infinity negative
        else .ofRatio negative (m * Binary64.powTwo k) 1)
    | .negSucc k =>
      some (if 4000 + 4 * (whole.length + fraction.length) < k then .zero negative
        else .ofRatio negative m (Binary64.powTwo (k + 1)))

/-- The double that a text in base sixteen denotes. -/
def ofHexText? (s : String) : Option Binary64 :=
  let isBlank (c : Char) : Bool := c = ' ' || (9 ≤ c.toNat && c.toNat ≤ 13)
  let cs := (Text.dropEndWhile isBlank (s.toList.dropWhile isBlank)).map Char.toLower
  let (negative, cs) := match cs with
    | '-' :: rest => (true, rest)
    | '+' :: rest => (false, rest)
    | rest => (false, rest)
  if ["inf", "infinity"].contains (String.ofList cs) then some (.infinity negative)
  else if cs = ['n', 'a', 'n'] then some .nan
  else
    match cs with
    | '0' :: 'x' :: rest => ofHexDigits? negative rest
    | rest => ofHexDigits? negative rest

/-- A method of a double. -/
def ofFloat (x : Binary64) (name : String) (arguments : List Value) : Except Failure Value :=
  match name, arguments with
  | "conjugate", [] => pure (float x)
  | "hex", [] => pure (str (String.ofList (hexText x)))
  | "fromhex", [str s] =>
    match ofHexText? s with
    | none => valueError "invalid hexadecimal floating-point string"
    | some (.infinity negative) =>
      if s.toList.any fun c => c = 'n' || c = 'N' then pure (float (.infinity negative))
      else
        throw (.thrown
          { kind := "OverflowError"
            message := "hexadecimal value too large to represent as a float" })
    | some x => pure (float x)
  | "is_integer", [] =>
    match Magnitude.ofFloat x with
    | .ratio num den => pure (bool (num % (den : Int) == 0))
    | _ => pure (bool false)
  | "as_integer_ratio", [] =>
    match Magnitude.ofFloat x with
    | .ratio num den =>
      let g := Nat.gcd num.natAbs den
      pure (tuple [int (num / (g : Int)), int (den / g : Nat)])
    | .unordered => valueError "cannot convert NaN to integer ratio"
    | _ =>
      throw (.thrown
        { kind := "OverflowError", message := "cannot convert Infinity to integer ratio" })
  | name, _ => refuse "float" name

/-- A method of a complex number. -/
def ofComplex (re im : Binary64) (name : String) (arguments : List Value) : Except Failure Value :=
  match name, arguments with
  | "conjugate", [] => pure (complex re im.negate)
  | name, _ => refuse "complex" name

end MacroStubs.Value.Method
