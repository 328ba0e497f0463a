import MacroStubs.Value.Equality

/-! # Order

Which of two values is less. Numbers are ordered by what they denote, texts by their characters,
sequences by the first items that differ, sets by inclusion. All else has no order.
-/

namespace MacroStubs

/-- A real number exactly, or an infinity; a NaN is none of them. -/
inductive Magnitude where
  | below
  | ratio (num : Int) (den : Nat)
  | above
  | unordered

namespace Magnitude

def ofFloat : Binary64 → Magnitude
  | .nan => unordered
  | .infinity negative => if negative then below else above
  | .finite negative m e =>
    let k : Int := if negative then -(m : Int) else m
    match e with
    | .ofNat j => ratio (k * (Binary64.powTwo j : Int)) 1
    | .negSucc j => ratio k (Binary64.powTwo (j + 1))

def less : Magnitude → Magnitude → Bool
  | ratio n d, ratio n' d' => n * (d' : Int) < n' * (d : Int)
  | below, ratio .. | below, above | ratio .., above => true
  | _, _ => false

end Magnitude

namespace Value

def magnitude? (v : Value) : Option Magnitude :=
  match v.int?, v with
  | some n, _ => some (.ratio n 1)
  | none, float x => some (.ofFloat x)
  | none, _ => none

def bytesLess : List UInt8 → List UInt8 → Bool
  | _, [] => false
  | [], _ :: _ => true
  | a :: as, b :: bs => if a = b then bytesLess as bs else decide (a < b)

mutual
/-- Whether a value is less than another; none if the two have no order. -/
def less? : Value → Value → Option Bool
  | str s, str t => some (decide (s < t))
  | bytes a, bytes b | bytes a, bytearray b | bytearray a, bytes b | bytearray a, bytearray b =>
    some (bytesLess a b)
  | list xs, list ys => itemsLess? xs ys
  | tuple xs, tuple ys => itemsLess? xs ys
  | set xs, set ys | set xs, frozenset ys | frozenset xs, set ys | frozenset xs, frozenset ys =>
    some (xs.length < ys.length && xs.all fun x => ys.any (same x))
  | a, b => do
    let m ← a.magnitude?
    let n ← b.magnitude?
    pure (m.less n)
def itemsLess? : List Value → List Value → Option Bool
  | _, [] => some false
  | [], _ :: _ => some true
  | x :: xs, y :: ys => if same x y then itemsLess? xs ys else less? x y
end

/-- The place for a value among sorted keys: behind those that are not greater. -/
def insertByKey (fault : Value → Value → Failure) (e : Value × Value) :
    List (Value × Value) → Except Failure (List (Value × Value))
  | [] => pure [e]
  | f :: rest =>
    match less? e.1 f.1 with
    | none => throw (fault e.1 f.1)
    | some true => pure (e :: f :: rest)
    | some false => do pure (f :: (← insertByKey fault e rest))

/-- Values sorted by their keys; equal ones keep their order. -/
def sortedByKey (fault : Value → Value → Failure) :
    List (Value × Value) → Except Failure (List (Value × Value))
  | [] => pure []
  | entries => entries.foldlM (fun done e => insertByKey fault e done) []

end Value
end MacroStubs
