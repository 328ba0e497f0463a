import MacroStubs.Catalogue

/-! # Equality and keys

Numbers are equal by what they denote, whatever their types; containers by their items; what has an
identity by it. A key is a value that never changes.
-/

namespace MacroStubs.Value

/-- The whole number that a truth value or whole number is. -/
def int? : Value → Option Int
  | bool b => some (if b then 1 else 0)
  | int n => some n
  | _ => none

/-- Real and imaginary part of a number that is not whole. -/
def parts? : Value → Option (Binary64 × Binary64)
  | float x => some (x, .zero false)
  | complex re im => some (re, im)
  | _ => none

/-- Equality of two values of which one is a number. -/
def sameNumber (a b : Value) : Bool :=
  match a.int?, b.int?, a.parts?, b.parts? with
  | some m, some n, _, _ => m == n
  | some m, none, _, some (re, im) => re.isInt m && im.isZero
  | none, some n, some (re, im), _ => re.isInt n && im.isZero
  | none, none, some (re, im), some (re', im') => re.same re' && im.same im'
  | _, _, _, _ => false

/-- The name of the object of a world that a value is. -/
def identity? : Value → Option String
  | function id .. => some id
  | wrapped id _ => some id
  | partialCall id .. => id
  | staticMethod id _ => id
  | classMethod id _ => id
  | property id _ => id
  | objectRef id => some id
  | moduleRef name => some ("module " ++ name)
  | _ => none

mutual
/-- Equality of values. -/
def same : Value → Value → Bool
  | null, null => true
  | str s, str t => s == t
  | bytes a, bytes b => a == b
  | bytes a, bytearray b => a == b
  | bytearray a, bytes b => a == b
  | bytearray a, bytearray b => a == b
  | list xs, list ys => sameItems xs ys
  | tuple xs, tuple ys => sameItems xs ys
  | set xs, set ys => xs.length == ys.length && allIn xs ys
  | set xs, frozenset ys => xs.length == ys.length && allIn xs ys
  | frozenset xs, set ys => xs.length == ys.length && allIn xs ys
  | frozenset xs, frozenset ys => xs.length == ys.length && allIn xs ys
  | dict xs, dict ys => xs.length == ys.length && allEntriesIn xs ys
  | mapping xs, mapping ys => xs.length == ys.length && allEntriesIn xs ys
  | mappingproxy xs, mappingproxy ys => xs.length == ys.length && allEntriesIn xs ys
  | range a b c, range a' b' c' => a == a' && b == b' && c == c'
  | ellipsis, ellipsis => true
  | bound i f s, bound j g t =>
    (match i, j with
     | some i, some j => i == j
     | _, _ => same f g && same s t)
  | native a, native b => a == b
  | builtin a, builtin b => a == b
  | cls a, cls b => a == b
  | member c a, member d b => c == d && a == b
  | memberOf c a s, memberOf d b t => c == d && a == b && same s t
  | missing, missing => true
  | a, b =>
    match a.identity?, b.identity? with
    | some i, some j => i == j
    | _, _ => sameNumber a b
def sameItems : List Value → List Value → Bool
  | [], [] => true
  | x :: xs, y :: ys => same x y && sameItems xs ys
  | _, _ => false
def allIn : List Value → List Value → Bool
  | [], _ => true
  | x :: xs, ys => ys.any (same x) && allIn xs ys
def allEntriesIn : List (Value × Value) → List (Value × Value) → Bool
  | [], _ => true
  | (k, v) :: xs, ys => ys.any (fun e => same k e.1 && same v e.2) && allEntriesIn xs ys
end

instance : BEq Value := ⟨same⟩

variable (areKeys : ClassId → Bool) (classOf : Value → ClassId)

mutual
/-- What keeps a value from being a key: itself, or an item of it. -/
def keyFault? : Value → Option Value
  | tuple items => firstKeyFault? items
  | frozenset items => firstKeyFault? items
  | v => if areKeys (classOf v) then none else some v
def firstKeyFault? : List Value → Option Value
  | [] => none
  | x :: xs => (keyFault? x).or (firstKeyFault? xs)
end

/-- Whether plain data can be a key. -/
def isHashable (v : Value) : Bool :=
  let areKeys : ClassId → Bool := fun c => match c with
    | .builtin name => Catalogue.areKeys name
    | .defined _ => true
  (v.keyFault? areKeys fun v => .builtin v.builtinClass).isNone

/-- The dictionary that results from putting in the entries one after the other. -/
def dictOf (entries : List (Value × Value)) : List (Value × Value) :=
  Table.ofList entries

/-- The items of a set, each once. -/
def setOf (items : List Value) : List Value :=
  items.foldl (fun xs x => if xs.any (same x) then xs else xs ++ [x]) []

end MacroStubs.Value
