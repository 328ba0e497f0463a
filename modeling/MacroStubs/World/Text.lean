import MacroStubs.World.Descriptor

/-! # Printed forms in a world

How the classes, functions and objects of a world print. An object prints as its class says, or as
what its class and its place are.
-/

namespace MacroStubs

variable (w : World) (r : Reach) (σ : State)

namespace Printing

/-- The name under which a method shows its function. -/
def methodName (f : Value) : String :=
  let read name := match r.find? σ f name with
    | .ok found => found
    | .error _ => some .null
  match read "__qualname__" with
  | some (.str s) => s
  | some _ => "?"
  | none =>
    match read "__name__" with
    | some (.str s) => s
    | _ => "?"

/-- The printed form of an object. -/
def objectText (address : String) (v : Value) : Except Failure (List Char) := do
  let cls := σ.classOf v
  match σ.inLineage cls "__repr__" with
  | none | some (.member (.builtin "object") _) =>
    pure s!"<{σ.fullName cls} object at {address}>".toList
  | some (.member ..) =>
    match σ.payload v with
    | .dict _ => pure "\x7b\x7d".toList
    | .list _ => pure "[]".toList
    | _ => pure ['0']
  | some raw =>
    let printer ← Descriptor.get r σ raw (some v) (.cls cls)
    match ← r.value σ printer [] with
    | .str s => pure s.toList
    | other => throw (.printedNonText (σ.typeLabel other))

end Printing

/-- How the things of a world are named. -/
def labels : Labels where
  classOf := σ.classOf
  nameOf := σ.className
  labelOf := σ.labelOf
  fullNameOf := σ.fullName
  functionName f := if f.isPlainFunction then Function.qualname σ f else Printing.methodName r σ f
  objectText := Printing.objectText r σ w.address
  address := w.address

/-- The text of a value in a message. -/
def printedText (v : Value) : Except Failure String := v.text (labels w r σ)

end MacroStubs
