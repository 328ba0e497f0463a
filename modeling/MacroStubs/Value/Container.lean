import MacroStubs.Value.Equality

/-! # Containers

What any value answers when it is asked whether it holds something, for an item, to put an item in,
or to be emptied. Most values are no containers and fail, each in its own way.
-/

namespace MacroStubs.Value

/-- What containers need to know of the classes of values. -/
structure Classing where
  classOf : Value → ClassId
  /-- The name of a class in messages about its objects. -/
  labelOf : ClassId → String
  /-- Whether the objects of a class can be keys. -/
  areKeys : ClassId → Bool

def Classing.label (c : Classing) (v : Value) : String := c.labelOf (c.classOf v)

variable (classing : Classing)

def requireKey (k : Value) : Except Failure Unit :=
  match k.keyFault? classing.areKeys classing.classOf with
  | some fault => throw (.unhashable (classing.label fault))
  | none => pure ()

def holdsText (needle text : String) : Bool :=
  Text.occursIn needle.toList text.toList

def holdsBytes (needle : List UInt8) : List UInt8 → Bool
  | [] => needle.isEmpty
  | b :: rest => needle.isPrefixOf (b :: rest) || holdsBytes needle rest

/-- Whether a range reaches a whole number. -/
def rangeHolds (start stop step n : Int) : Bool :=
  if 0 < step then start ≤ n && n < stop && (n - start) % step == 0
  else stop < n && n ≤ start && (start - n) % (-step) == 0

/-- How many numbers a range has. -/
def rangeLength (start stop step : Int) : Nat :=
  if 0 < step then ((stop - start + step - 1) / step).toNat
  else ((start - stop - step - 1) / (-step)).toNat

/-- Whether a value counts as true. Containers and texts do unless they are empty. -/
def isTrue : Value → Bool
  | null => false
  | bool b => b
  | int n => n != 0
  | float x => !x.isZero
  | complex re im => !(re.isZero && im.isZero)
  | str s => !s.isEmpty
  | bytes data | bytearray data => !data.isEmpty
  | list xs | tuple xs | set xs | frozenset xs => !xs.isEmpty
  | dict es | mapping es | mappingproxy es => !es.isEmpty
  | range start stop step => rangeLength start stop step != 0
  | _ => true

/-- Whether a value holds another one. -/
def holds (container item : Value) : Except Failure Bool :=
  match container with
  | dict es | mapping es | mappingproxy es => do
    requireKey classing item
    pure (Table.has es item)
  | set xs | frozenset xs => do
    requireKey classing item
    pure (xs.any (same item))
  | list xs | tuple xs => pure (xs.any (same item))
  | cyclic .dict => do
    requireKey classing item
    pure (same item (int 1))
  | cyclic _ => pure false
  | str s =>
    match item with
    | str t => pure (holdsText t s)
    | _ => throw (.textExpected (classing.label item))
  | bytes data | bytearray data =>
    match item.int?, item with
    | some n, _ =>
      if 0 ≤ n ∧ n < 256 then pure (data.contains (UInt8.ofNat n.toNat)) else throw .byteOutOfRange
    | none, bytes t => pure (holdsBytes t data)
    | none, bytearray t => pure (holdsBytes t data)
    | none, _ => throw (.bytesExpected (classing.label item))
  | range start stop step =>
    match item.int? with
    | some n => pure (rangeHolds start stop step n)
    | none => pure false
  | v => throw (.notIterable (classing.label v))

/-- The place that an index means in a sequence; a negative one counts from the end. -/
def place? (length : Nat) (n : Int) : Option Nat :=
  let i := if n < 0 then n + length else n
  if 0 ≤ i ∧ i < length then some i.toNat else none

/-- The item of a sequence at an index. -/
def itemAt (name : String) (xs : List Value) (index : Value) : Except Failure Value :=
  match index.int? with
  | none => throw (.badIndex name (classing.label index))
  | some n =>
    match (place? xs.length n).bind (xs[·]?) with
    | some v => pure v
    | none => throw (.indexOutOfRange name)

/-- The item that a value has under a key or at an index. -/
def item (container key : Value) : Except Failure Value :=
  match container with
  | dict es | mapping es | mappingproxy es => do
    requireKey classing key
    match Table.get? es key with
    | some v => pure v
    | none => throw (.keyMissing "")
  | list xs => itemAt classing "list" xs key
  | tuple xs => itemAt classing "tuple" xs key
  | str s => itemAt classing "str" (s.toList.map fun c => str (String.singleton c)) key
  | bytes data => itemAt classing "bytes" (data.map fun b => int b.toNat) key
  | bytearray data => itemAt classing "bytearray" (data.map fun b => int b.toNat) key
  | range start stop step =>
    match key.int? with
    | none => throw (.badIndex "range" (classing.label key))
    | some n =>
      match place? (rangeLength start stop step) n with
      | some i => pure (int (start + i * step))
      | none => throw (.indexOutOfRange "range")
  | cyclic .dict => pure container
  | v => throw (.notSubscriptable (classing.label v))

/-- The value with an item put in under a key or at an index. -/
def withItem (container key v : Value) : Except Failure Value :=
  match container with
  | dict es => do
    requireKey classing key
    pure (dict (Table.put es key v))
  | list xs =>
    match key.int? with
    | none => throw (.badIndex "list" (classing.label key))
    | some n =>
      match place? xs.length n with
      | some i => pure (list (xs.set i v))
      | none => throw (.assignmentOutOfRange "list")
  | bytearray _ => throw (.badIndex "bytearray" (classing.label key))
  | cyclic .list => throw (.badIndex "list" (classing.label key))
  | cyclic .listOfDict => throw (.badIndex "list" (classing.label key))
  | cyclic .dict => pure container
  | v => throw (.noItemAssignment (classing.label v))

/-- The value without its items. -/
def emptied : Value → Except Failure Value
  | dict _ => pure (dict [])
  | list _ => pure (list [])
  | set _ => pure (set [])
  | bytearray _ => pure (bytearray [])
  | cyclic .dict => pure (dict [])
  | cyclic .list => pure (list [])
  | cyclic .listOfDict => pure (list [])
  | v => throw (.noAttribute (classing.label v) "clear")

end MacroStubs.Value
