import MacroStubs.Value.Method.Basic
import MacroStubs.Value.Order

/-! # Methods of collections

What the methods of lists, tuples, ranges, dictionaries and sets give. A method that changes its
object gives nothing; the change is not seen, since the object is a value.
-/

namespace MacroStubs.Value.Method

variable (setting : Setting)

def countOf (xs : List Value) (v : Value) : Value := int (xs.filter (same v)).length

/-- The place of an item between bounds, which have to be numbers. -/
def placeOf (xs : List Value) (v : Value) (arguments : List Value) : Except Failure (Option Nat) := do
  let _ ← arguments.mapM number
  let (start, stop) ← bounds xs.length arguments
  pure (((xs.take stop).drop start).findIdx? (same v) |>.map (· + start))

/-- The item at an index, as it is taken out. -/
def taken (owner : String) (xs : List Value) (index : Value) : Except Failure Value := do
  match (place? xs.length (← number index)).bind (xs[·]?) with
  | some v => pure v
  | none =>
    indexError (if xs.isEmpty then s!"pop from empty {owner}" else "pop index out of range")

/-- A method of a list. -/
def ofList (xs : List Value) (name : String) (arguments : List Value) : Except Failure Value :=
  match name, arguments with
  | "append", [_] | "clear", [] | "reverse", [] => pure null
  | "insert", [i, _] => do
    let _ ← number i
    pure null
  | "extend", [v] => do
    let _ ← items setting.classing v
    pure null
  | "copy", [] => pure (list xs)
  | "count", [v] => pure (countOf xs v)
  | "index", v :: rest => do
    match ← placeOf xs v rest with
    | some p => pure (int p)
    | none => valueError s!"{← setting.printed v} is not in list"
  | "remove", [v] =>
    if xs.any (same v) then pure null else valueError "list.remove(x): x not in list"
  | "pop", [i] => taken "list" xs i
  | name, _ => refuse "list" name

/-- A method of a tuple. -/
def ofTuple (xs : List Value) (name : String) (arguments : List Value) : Except Failure Value :=
  match name, arguments with
  | "count", [v] => pure (countOf xs v)
  | "index", v :: rest => do
    match ← placeOf xs v rest with
    | some p => pure (int p)
    | none => valueError "tuple.index(x): x not in tuple"
  | name, _ => refuse "tuple" name

/-- The whole number that a number equals. -/
def whole? (v : Value) : Option Int :=
  match v.magnitude? with
  | some (.ratio n d) => if n % (d : Int) = 0 then some (n / (d : Int)) else none
  | _ => none

/-- A method of a range. -/
def ofRange (start stop step : Int) (name : String) (arguments : List Value) :
    Except Failure Value :=
  let holds (v : Value) : Option Int := (whole? v).filter (rangeHolds start stop step)
  match name, arguments with
  | "count", [v] => pure (int (if (holds v).isSome then 1 else 0))
  | "index", [v] =>
    match holds v, v.int? with
    | some n, _ => pure (int ((n - start) / step))
    | none, some _ => do valueError s!"{← setting.printed v} is not in range"
    | none, none => valueError "sequence.index(x): x not in sequence"
  | name, _ => refuse "range" name

/-- A key that is missing. -/
def missingKey {α : Type} (key : Value) : Except Failure α := do
  throw (.keyMissing (← setting.printed key))

/-- A method of a dictionary or of a view of one. -/
def ofEntries (entries : List (Value × Value)) (name : String) (arguments : List Value) :
    Except Failure Value :=
  let at? (key : Value) : Except Failure (Option Value) := do
    requireKey setting.classing key
    pure (Table.get? entries key)
  match name, arguments with
  | "get", [key] | "setdefault", [key] => do pure ((← at? key).getD null)
  | "get", [key, other] | "setdefault", [key, other] => do pure ((← at? key).getD other)
  | "pop", [key, other] =>
    if entries.isEmpty then pure other else do pure ((← at? key).getD other)
  | "pop", [key] =>
    if entries.isEmpty then missingKey setting key
    else do
      match ← at? key with
      | some v => pure v
      | none => missingKey setting key
  | "popitem", [] =>
    match entries.getLast? with
    | some e => pure (tuple [e.1, e.2])
    | none => throw (.keyMissing "'popitem(): dictionary is empty'")
  | "keys", [] => pure (anonymous "dict_keys")
  | "values", [] => pure (anonymous "dict_values")
  | "items", [] => pure (anonymous "dict_items")
  | "copy", [] => pure (dict entries)
  | "clear", [] | "update", [] => pure null
  | "update", [v] => do
    let _ ← entriesFrom setting.classing v
    pure null
  | "fromkeys", [v] => do pure (dict (dictOf ((← keys setting.classing v).map (·, null))))
  | "fromkeys", [v, x] => do pure (dict (dictOf ((← keys setting.classing v).map (·, x))))
  | name, _ => refuse "dict" name

/-- The members of several collections. -/
def members (arguments : List Value) : Except Failure (List (List Value)) :=
  arguments.mapM (keys setting.classing)

def memberOf (xs : List Value) (x : Value) : Bool := xs.any (same x)

/-- What set operations on several collections give. -/
def combined (name : String) (xs : List Value) (others : List (List Value)) : List Value :=
  match name with
  | "union" => setOf (xs ++ others.flatten)
  | "intersection" => xs.filter fun x => others.all (memberOf · x)
  | "difference" => xs.filter fun x => !others.any (memberOf · x)
  | _ =>
    let ys := setOf others.flatten
    xs.filter (!memberOf ys ·) ++ ys.filter (!memberOf xs ·)

/-- A method of a set. -/
def ofSet (frozen : Bool) (xs : List Value) (name : String) (arguments : List Value) :
    Except Failure Value :=
  let make (items : List Value) : Value := if frozen then frozenset items else set items
  let owner := if frozen then "frozenset" else "set"
  let requireMember (v : Value) : Except Failure Unit := match v with
    | set _ => pure ()
    | v => requireKey setting.classing v
  match name, arguments with
  | "add", [v] => do
    requireKey setting.classing v
    pure null
  | "discard", [v] => do
    requireMember v
    pure null
  | "clear", [] => pure null
  | "remove", [v] => do
    requireMember v
    if memberOf xs v then pure null else missingKey setting v
  | "pop", [] =>
    match xs.head? with
    | some v => pure v
    | none => throw (.keyMissing "'pop from an empty set'")
  | "copy", [] => pure (make xs)
  | "union", arguments | "intersection", arguments | "difference", arguments => do
    pure (make (combined name xs (← members setting arguments)))
  | "symmetric_difference", [v] => do
    pure (make (combined name xs (← members setting [v])))
  | "update", arguments | "intersection_update", arguments | "difference_update", arguments => do
    let _ ← members setting arguments
    pure null
  | "symmetric_difference_update", [v] => do
    let _ ← members setting [v]
    pure null
  | "issubset", [v] => do
    let ys ← keys setting.classing v
    pure (bool (xs.all (memberOf ys)))
  | "issuperset", [v] => do pure (bool ((← keys setting.classing v).all (memberOf xs)))
  | "isdisjoint", [v] => do pure (bool (!(← keys setting.classing v).any (memberOf xs)))
  | name, _ => refuse owner name

end MacroStubs.Value.Method
