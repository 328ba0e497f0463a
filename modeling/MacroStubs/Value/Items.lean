import MacroStubs.Value.Container

/-! # Items

What containers give one by one, and the entries that pairs make.
-/

namespace MacroStubs.Value

/-- How many items a container has. -/
def length? : Value → Option Nat
  | str s => some s.length
  | bytes b | bytearray b => some b.length
  | list xs | tuple xs | set xs | frozenset xs => some xs.length
  | dict es | mapping es | mappingproxy es => some es.length
  | range start stop step => some (rangeLength start stop step)
  | cyclic _ => some 1
  | _ => none

/-- What a value gives one by one. -/
def items? : Value → Option (List Value)
  | list xs | tuple xs | set xs | frozenset xs => some xs
  | str s => some (s.toList.map fun c => str (String.singleton c))
  | bytes b | bytearray b => some (b.map fun x => int x.toNat)
  | dict es | mapping es | mappingproxy es => some (es.map (·.1))
  | range start stop step =>
    some ((List.range (rangeLength start stop step)).map fun (i : Nat) => int (start + i * step))
  | cyclic .dict => some [int 1]
  | cyclic .list => some [cyclic .list]
  | cyclic _ => some [anonymous "list"]
  | _ => none

variable (classing : Classing)

def items (v : Value) : Except Failure (List Value) :=
  match v.items? with
  | some xs => pure xs
  | none => throw (.builtinRefused s!"'{classing.label v}' object is not iterable")

/-- The items of a value that can be keys. -/
def keys (v : Value) : Except Failure (List Value) := do
  let xs ← items classing v
  for x in xs do
    requireKey classing x
  pure xs

/-- The entries that pairs make; `i` is the place of the first pair. -/
def entriesOfPairs (i : Nat) : List Value → Except Failure (List (Value × Value))
  | [] => pure []
  | pair :: rest =>
    match pair.items? with
    | none =>
      throw (.builtinRefused
        s!"cannot convert dictionary update sequence element #{i} to a sequence")
    | some [key, v] => do
      requireKey classing key
      pure ((key, v) :: (← entriesOfPairs (i + 1) rest))
    | some xs =>
      throw (.thrown
        { kind := "ValueError"
          message := s!"dictionary update sequence element #{i} has length {xs.length}; " ++
            "2 is required" })

/-- The entries that a value is converted to. -/
def entriesFrom (v : Value) : Except Failure (List (Value × Value)) := do
  match v.entries? with
  | some es => pure es
  | none => dictOf <$> entriesOfPairs classing 0 (← items classing v)

end MacroStubs.Value
