import MacroStubs.Number.Arithmetic
import MacroStubs.Value.Items
import MacroStubs.Value.Order

/-! # Operations on plain data

What the special methods of plain data give: comparisons, arithmetic, sums and repetitions of
sequences, and what holds of sets. An operation that does not know the other value leaves the answer
open.
-/

namespace MacroStubs.Value

variable (classing : Classing)

namespace Operation

/-- What an operation answers that does not know the other value. -/
def undecided : Value := anonymous "NotImplementedType"

/-- Whether a value is compared with another one by what they hold. -/
def isComparable : Value → Value → Bool
  | str _, str _ | bytes _, bytes _ | bytearray _, bytearray _ => true
  | bytearray _, bytes _ => true
  | list _, list _ | tuple _, tuple _ | dict _, dict _ | range .., range .. => true
  | set _, set _ | set _, frozenset _ | frozenset _, set _ | frozenset _, frozenset _ => true
  | mapping _, mapping _ => true
  | float _, b => b.int?.isSome || (match b with | float _ => true | _ => false)
  | complex .., b => b.int?.isSome || b.parts?.isSome
  | a, b => a.int?.isSome && b.int?.isSome

/-- What holds the entries that a view shows. -/
def unviewed : Value → Value
  | mappingproxy es => dict es
  | v => v

/-- What a comparison with another value gives. A view answers as what it shows, and settles what that
leaves open. -/
def comparison (name : String) (a b : Value) : Except Failure Value :=
  let isView := match a with
    | mappingproxy _ => true
    | _ => false
  let (v, w) := (unviewed a, unviewed b)
  let unsettled : Except Failure Value :=
    if !isView then pure undecided
    else if name = "__eq__" then pure (bool false)
    else if name = "__ne__" then pure (bool true)
    else throw (.builtinRefused "the values have no order")
  let ordered (x y : Value) (orSame : Bool) : Except Failure Value :=
    match less? x y, x with
    | some l, _ => pure (bool (l || (orSame && same x y)))
    | none, list _ | none, tuple _ => throw (.builtinRefused "the items have no order")
    | none, _ => unsettled
  if !isComparable v w then unsettled
  else
    match name with
    | "__eq__" => pure (bool (same v w))
    | "__ne__" => pure (bool (!same v w))
    | "__lt__" => ordered v w false
    | "__le__" => ordered v w true
    | "__gt__" => ordered w v false
    | _ => ordered w v true

def zeroDivision {α : Type} (what : String) : Except Failure α :=
  throw (.thrown { kind := "ZeroDivisionError", message := what })

/-- The quotient of two whole numbers as a double. -/
def quotient (m n : Int) : Except Failure Value :=
  if n = 0 then zeroDivision "division by zero"
  else
    match Binary64.ofRatio ((m < 0) != (n < 0)) m.natAbs n.natAbs with
    | .infinity _ =>
      throw (.thrown
        { kind := "OverflowError", message := "integer division result too large for a float" })
    | x => pure (float x)

/-- A number of so many bits as a residue, and back. -/
def bitwise (f : Nat → Nat → Nat) (m n : Int) : Int :=
  let k := max m.natAbs.log2 n.natAbs.log2 + 2
  let size : Int := Binary64.powTwo k
  let r : Int := f (m.emod size).toNat (n.emod size).toNat
  if size ≤ 2 * r then r - size else r

/-- An operation of two whole numbers. -/
def ofInts? (name : String) (m n : Int) : Option (Except Failure Value) :=
  let give (k : Int) : Option (Except Failure Value) := some (pure (int k))
  let divided (f : Int → Int → Int) (what : String) (m n : Int) : Option (Except Failure Value) :=
    some (if n = 0 then zeroDivision what else pure (int (f m n)))
  let parts (m n : Int) : Option (Except Failure Value) :=
    some (if n = 0 then zeroDivision "integer division or modulo by zero"
      else pure (tuple [int (m.fdiv n), int (m.fmod n)]))
  let power (m n : Int) : Option (Except Failure Value) :=
    if 0 ≤ n ∧ n < 10000 then give (Int.pow m n.toNat) else none
  let shift (left : Bool) (m n : Int) : Option (Except Failure Value) :=
    if n < 0 then
      some (throw (.thrown { kind := "ValueError", message := "negative shift count" }))
    else if 100000 ≤ n then none
    else if left then give (m * Binary64.powTwo n.toNat)
    else give (m.fdiv (Binary64.powTwo n.toNat))
  match name with
  | "__add__" | "__radd__" => give (m + n)
  | "__sub__" => give (m - n)
  | "__rsub__" => give (n - m)
  | "__mul__" | "__rmul__" => give (m * n)
  | "__floordiv__" => divided Int.fdiv "integer division or modulo by zero" m n
  | "__rfloordiv__" => divided Int.fdiv "integer division or modulo by zero" n m
  | "__mod__" => divided Int.fmod "integer modulo by zero" m n
  | "__rmod__" => divided Int.fmod "integer modulo by zero" n m
  | "__divmod__" => parts m n
  | "__rdivmod__" => parts n m
  | "__truediv__" => some (quotient m n)
  | "__rtruediv__" => some (quotient n m)
  | "__pow__" => power m n
  | "__rpow__" => power n m
  | "__lshift__" => shift true m n
  | "__rlshift__" => shift true n m
  | "__rshift__" => shift false m n
  | "__rrshift__" => shift false n m
  | "__and__" | "__rand__" => give (bitwise Nat.land m n)
  | "__or__" | "__ror__" => give (bitwise Nat.lor m n)
  | "__xor__" | "__rxor__" => give (bitwise Nat.xor m n)
  | _ => none

/-- An operation of two truth values that gives one. -/
def ofTruths? (name : String) (a b : Bool) : Option Value :=
  match name with
  | "__and__" | "__rand__" => some (bool (a && b))
  | "__or__" | "__ror__" => some (bool (a || b))
  | "__xor__" | "__rxor__" => some (bool (a != b))
  | _ => none

/-- An operation of a whole number alone. -/
def ofInt? (name : String) (v : Value) (n : Int) : Option Value :=
  match name with
  | "__neg__" => some (int (-n))
  | "__pos__" | "__int__" | "__index__" | "__trunc__" | "__floor__" | "__ceil__" | "__round__" =>
    some (int n)
  | "__abs__" => some (int n.natAbs)
  | "__invert__" => some (int (-n - 1))
  | "__float__" => some (float (Binary64.ofInt n))
  | "__hash__" =>
    let h : Int := Int.tmod n (Binary64.powTwo 61 - 1)
    some (int (if h = -1 then -2 else h))
  | "__getnewargs__" => some (tuple [match v with
    | bool b => int (if b then 1 else 0)
    | v => v])
  | _ => none

/-- An operation of two doubles. -/
def ofFloats? (name : String) (x y : Binary64) : Option (Except Failure Value) :=
  let give (z : Binary64) : Option (Except Failure Value) := some (pure (float z))
  let divided (what : String) (f : Binary64 → Binary64 → Value) (x y : Binary64) :
      Option (Except Failure Value) :=
    some (if y.isZero then zeroDivision what else pure (f x y))
  let quotient (x y : Binary64) : Value := float (x.div y)
  let whole (x y : Binary64) : Value := float (x.divide y).1
  let left (x y : Binary64) : Value := float (x.divide y).2
  let parts (x y : Binary64) : Value := tuple [whole x y, left x y]
  match name with
  | "__add__" | "__radd__" => give (x.add y)
  | "__sub__" => give (x.add y.negate)
  | "__rsub__" => give (y.add x.negate)
  | "__mul__" | "__rmul__" => give (x.mul y)
  | "__truediv__" => divided "float division by zero" quotient x y
  | "__rtruediv__" => divided "float division by zero" quotient y x
  | "__floordiv__" => divided "float floor division by zero" whole x y
  | "__rfloordiv__" => divided "float floor division by zero" whole y x
  | "__mod__" => divided "float modulo" left x y
  | "__rmod__" => divided "float modulo" left y x
  | "__divmod__" => divided "float divmod()" parts x y
  | "__rdivmod__" => divided "float divmod()" parts y x
  | _ => none

/-- The whole number that rounding gives: down, up, to zero, or to the nearest one. -/
def rounded (f : Int → Int → Int) (x : Binary64) : Except Failure Value :=
  match Magnitude.ofFloat x with
  | .ratio n d => pure (int (f n d))
  | .unordered =>
    throw (.thrown { kind := "ValueError", message := "cannot convert float NaN to integer" })
  | _ =>
    throw (.thrown
      { kind := "OverflowError", message := "cannot convert float infinity to integer" })

/-- An operation of a double alone. -/
def ofFloat? (name : String) (x : Binary64) : Option (Except Failure Value) :=
  match name with
  | "__neg__" => some (pure (float x.negate))
  | "__pos__" | "__float__" => some (pure (float x))
  | "__abs__" => some (pure (float x.abs))
  | "__int__" | "__trunc__" => some (rounded Int.tdiv x)
  | "__floor__" => some (rounded Int.fdiv x)
  | "__ceil__" => some (rounded (fun n d => -((-n).fdiv d)) x)
  | "__round__" =>
    some (rounded (fun n d =>
      let k : Int := Binary64.roundHalfEven n.natAbs d.natAbs
      if n < 0 then -k else k) x)
  | "__getnewargs__" => some (pure (tuple [float x]))
  | _ => none

/-- An operation of a complex number alone. -/
def ofComplex? (name : String) (re im : Binary64) : Option (Except Failure Value) :=
  match name with
  | "__neg__" => some (pure (complex re.negate im.negate))
  | "__pos__" | "__complex__" => some (pure (complex re im))
  | "__getnewargs__" => some (pure (tuple [float re, float im]))
  | _ => none

/-- An operation of two complex numbers. -/
def ofComplexes? (name : String) (a b : Binary64 × Binary64) : Option Value :=
  let less (x y : Binary64) : Binary64 := x.add y.negate
  match name with
  | "__add__" | "__radd__" => some (complex (a.1.add b.1) (a.2.add b.2))
  | "__sub__" => some (complex (less a.1 b.1) (less a.2 b.2))
  | "__rsub__" => some (complex (less b.1 a.1) (less b.2 a.2))
  | "__mul__" | "__rmul__" =>
    some (complex (less (a.1.mul b.1) (a.2.mul b.2)) ((a.1.mul b.2).add (a.2.mul b.1)))
  | _ => none

/-- A whole number raised to a power, up to what a modulus divides. -/
def powerModulo (base exponent modulus : Int) : Option (Except Failure Value) :=
  if modulus = 0 then
    some (throw (.thrown { kind := "ValueError", message := "pow() 3rd argument cannot be 0" }))
  else if 0 ≤ exponent ∧ exponent < 10000 then
    some (pure (int ((Int.pow base exponent.toNat).fmod modulus)))
  else none

/-- A whole number rounded to tens, hundreds and so on, a half to the even one. -/
def roundedInt (n places : Int) : Int :=
  match places with
  | .ofNat _ => n
  | .negSucc k =>
    if 5000 < k then 0
    else
      let step := Binary64.powTen (k + 1)
      let r : Int := Binary64.roundHalfEven n.natAbs step * step
      if n < 0 then -r else r

/-- A number as a double. -/
def double? (v : Value) : Option Binary64 :=
  match v with
  | float x => some x
  | v => v.int?.map Binary64.ofInt

/-- A number as its real and imaginary part. -/
def complexParts? (v : Value) : Option (Binary64 × Binary64) :=
  match v with
  | complex re im => some (re, im)
  | v => (double? v).map (·, .zero false)

/-- Items one after the other as often as a number says. -/
def repeated {α : Type} (n : Int) (items : List α) : List α :=
  (List.replicate n.toNat items).flatten

/-- The sum of two sequences of one kind. -/
def sum? : Value → Value → Option Value
  | str s, str t => some (str (s ++ t))
  | bytes a, bytes b | bytes a, bytearray b => some (bytes (a ++ b))
  | bytearray a, bytes b | bytearray a, bytearray b => some (bytearray (a ++ b))
  | list xs, list ys => some (list (xs ++ ys))
  | tuple xs, tuple ys => some (tuple (xs ++ ys))
  | _, _ => none

def product? (v : Value) (n : Int) : Option Value :=
  if 100000 < n then none
  else
    match v with
    | str s => some (str (String.ofList (repeated n s.toList)))
    | bytes b => some (bytes (repeated n b))
    | bytearray b => some (bytearray (repeated n b))
    | list xs => some (list (repeated n xs))
    | tuple xs => some (tuple (repeated n xs))
    | _ => none

/-- An operation of two sets, which gives one of the kind of the first. -/
def ofSets? (name : String) (xs ys : List Value) : Option (List Value) :=
  let within (zs : List Value) (x : Value) : Bool := zs.any (same x)
  match name with
  | "__or__" => some (setOf (xs ++ ys))
  | "__ror__" => some (setOf (ys ++ xs))
  | "__and__" => some (xs.filter (within ys))
  | "__rand__" => some (ys.filter (within xs))
  | "__sub__" => some (xs.filter (!within ys ·))
  | "__rsub__" => some (ys.filter (!within xs ·))
  | "__xor__" => some (xs.filter (!within ys ·) ++ ys.filter (!within xs ·))
  | "__rxor__" => some (ys.filter (!within xs ·) ++ xs.filter (!within ys ·))
  | _ => none

def setItems? : Value → Option (List Value)
  | set xs | frozenset xs => some xs
  | _ => none

/-- The name of the class of what gives the items of a value one by one. -/
def iteratorClass (v : Value) : String :=
  match v with
  | dict _ | mappingproxy _ | cyclic .dict => "dict_keyiterator"
  | set _ | frozenset _ => "set_iterator"
  | str s => if s.toList.all fun c => c.toNat < 128 then "str_ascii_iterator" else "str_iterator"
  | v => v.builtinClass ++ "_iterator"

/-- The operators that take another value. -/
def operators : List String :=
  ["add", "sub", "mul", "floordiv", "mod", "divmod", "truediv", "pow", "lshift", "rshift", "and",
   "or", "xor"]

def isBinary (name : String) : Bool :=
  operators.any fun op => name = "__" ++ op ++ "__" || name = "__r" ++ op ++ "__"

/-- The sum of sequences, or why there is none. -/
def concatenated (a b : Value) : Except Failure Value :=
  match sum? a b with
  | some v => pure v
  | none =>
    if (sum? a a).isSome then
      throw (.builtinRefused s!"can only concatenate {classing.label a} to {classing.label a}")
    else pure undecided

/-- A sequence repeated as often as a value says. -/
def multiplied (a b : Value) : Except Failure Value :=
  match b.int? with
  | some n => pure ((product? a n).getD undecided)
  | none =>
    if (product? a 0).isSome then
      throw (.builtinRefused s!"'{classing.label b}' object cannot be interpreted as an integer")
    else pure undecided

/-- An operation of two values. -/
def ofTwo (name : String) (a b : Value) : Except Failure Value :=
  match a, b with
  | bool p, bool q =>
    match ofTruths? name p q with
    | some v => pure v
    | none => ((ofInts? name (a.int?.getD 0) (b.int?.getD 0)).getD (pure undecided))
  | float x, b =>
    match double? b with
    | some y => (ofFloats? name x y).getD (pure undecided)
    | none => pure undecided
  | complex re im, b =>
    pure (((complexParts? b).bind (ofComplexes? name (re, im))).getD undecided)
  | dict xs, dict ys =>
    if name = "__or__" then pure (dict (dictOf (xs ++ ys)))
    else if name = "__ror__" then pure (dict (dictOf (ys ++ xs)))
    else pure undecided
  | a, b =>
    match a.int?, b.int?, setItems? a, setItems? b with
    | some m, some n, _, _ => (ofInts? name m n).getD (pure undecided)
    | some _, none, _, _ => pure undecided
    | _, _, some xs, some ys =>
      let isFrozen := match if name.startsWith "__r" then b else a with
        | frozenset _ => true
        | _ => false
      pure (match ofSets? name xs ys with
        | some zs => if isFrozen then frozenset zs else set zs
        | none => undecided)
    | _, _, _, _ =>
      match name with
      | "__add__" => concatenated classing a b
      | "__mul__" | "__rmul__" => multiplied classing a b
      | _ => pure undecided

end Operation

/-- What a special method of plain data gives; none if the value has no such operation. -/
def operate? (self : Value) (name : String) (arguments : List Value) :
    Option (Except Failure Value) :=
  match name, arguments with
  | "__bool__", [] => some (pure (bool self.isTrue))
  | "__len__", [] => self.length?.map fun n => pure (int n)
  | "__round__", [places] =>
    match self, places.int? with
    | float x, some k => some (pure (float (x.roundedTo k)))
    | float x, none => if same places null then Operation.ofFloat? name x else none
    | self, some k => self.int?.map fun n => pure (int (Operation.roundedInt n k))
    | _, none => none
  | "__pow__", [v, modulus] | "__rpow__", [v, modulus] =>
    match self.int?, v.int?, modulus.int? with
    | some m, some n, some k =>
      if name = "__pow__" then Operation.powerModulo m n k else Operation.powerModulo n m k
    | some _, _, _ => some (pure Operation.undecided)
    | none, _, _ => none
  | "__contains__", [v] => some ((self.holds classing v).map bool)
  | "__getitem__", [key] => some (self.item classing key)
  | "__setitem__", [key, v] => some ((self.withItem classing key v).map fun _ => null)
  | "__delitem__", [key] =>
    match self with
    | list _ => some ((self.withItem classing key null).map fun _ => null)
    | self => some ((self.item classing key).map fun _ => null)
  | "__iter__", [] => some (pure (anonymous (Operation.iteratorClass self)))
  | "__iadd__", [v] =>
    match self with
    | list xs => some ((items classing v).map fun ys => list (xs ++ ys))
    | self => some (Operation.ofTwo classing "__add__" self v)
  | "__imul__", [v] => some (Operation.ofTwo classing "__mul__" self v)
  | "__iand__", [v] => some (Operation.ofTwo classing "__and__" self v)
  | "__isub__", [v] => some (Operation.ofTwo classing "__sub__" self v)
  | "__ixor__", [v] => some (Operation.ofTwo classing "__xor__" self v)
  | "__ior__", [v] =>
    match self with
    | dict es => some ((entriesFrom classing v).map fun more => dict (dictOf (es ++ more)))
    | self => some (Operation.ofTwo classing "__or__" self v)
  | "__eq__", [v] | "__ne__", [v] | "__lt__", [v] | "__le__", [v] | "__gt__", [v] | "__ge__", [v] =>
    some (Operation.comparison name self v)
  | name, [] =>
    match self with
    | float x => Operation.ofFloat? name x
    | complex re im => Operation.ofComplex? name re im
    | bytes _ => if name = "__bytes__" || name = "__getnewargs__" then
        some (pure (if name = "__bytes__" then self else tuple [self])) else none
    | str _ | tuple _ => if name = "__getnewargs__" then some (pure (tuple [self])) else none
    | self => (self.int?.bind (Operation.ofInt? name self)).map pure
  | name, [v] =>
    if Operation.isBinary name then
      some (Operation.ofTwo classing name (Operation.unviewed self) (Operation.unviewed v))
    else none
  | _, _ => none

end MacroStubs.Value
