import MacroStubs.World.Builtin
import MacroStubs.World.Members

/-! # Registration

What the functions of the root class do. They ask each other through the class, so that a class that
defines one of them itself has its say.
-/

namespace MacroStubs.Registration

variable (w : World) (r : Reach)

/-- Where the registry of a class is: with a class, or on its own so that no change of it stays. -/
inductive Place where
  | kept (c : ClassId)
  | loose (registry : Value)

/-- The place of the registry that a class writes to. -/
def placeOf (v : Value) : Run Place := do
  let f ← Run.read fun σ => r.read σ v Native.registry.name
  match f with
  | .bound _ (.native .registry) (.cls c) => pure (.kept c)
  | f => .loose <$> r.call f [] []

/-- The registry that a class tells. -/
def registry (v : Value) : Run Value := do
  match ← placeOf r v with
  | .kept c => Run.read fun σ => Registry.of σ c
  | .loose registry => pure registry

/-- Registers a macro where a class keeps its own. -/
def register (v name entry : Value) : Run Unit := do
  match ← placeOf r v with
  | .kept c => Registry.register c name entry
  | .loose registry => do
    let _ ← Run.ofExcept (registry.withItem (← get).classing name entry)

/-- Removes the macros that a class keeps. -/
def flush (v : Value) : Run Unit := do
  match ← placeOf r v with
  | .kept c => Registry.flush c
  | .loose registry => do
    let _ ← Run.ofExcept (registry.emptied (← get).classing)

/-- Whether a name means a macro on a class. -/
def holds (v name : Value) : Run Bool := do
  match v with
  | .cls c => do
    let found ← Run.read fun σ => Attribute.sought r σ c name
    pure found.isSome
  | v => do pure (!(← r.invoke v Native.find.name [name] []).isMissing)

/-- Registers every public routine of a source on a class. -/
def adopt (v source : Value) (replace : Bool) : Run Unit := do
  let members ← Run.read fun σ => Members.routines r σ source
  Registry.adoptAll
    (fun name => do BuiltinCall.truth r (← r.invoke v Native.holds.name [name] []))
    (fun name member => do
      let _ ← r.invoke v Native.register.name [name, member] [])
    replace members

/-- The macro that a name means on a class. -/
def find (v name : Value) : Run Value := do
  match v with
  | .cls c => do pure ((← Run.read fun σ => Registry.find? σ c name).getD .missing)
  | v => do
    let lineage ← Run.read fun σ => r.read σ v "__mro__"
    let _ ← BuiltinCall.items lineage
    pure .missing

/-- The registry that a class of its own accord writes to. -/
def ofClass (v : Value) : Run Value := do
  match v with
  | .cls c => Run.read fun σ => Registry.of σ c
  | v => do
    match ← Run.read fun σ => r.find? σ v "__dict__" with
    | some (.dict entries) =>
      match Table.get? entries (Value.str ownField) with
      | some registry => pure registry
      | none => throw (.keyMissing (Text.quote ownField))
    | _ => throw (.builtinRefused "vars() argument must have __dict__ attribute")

/-- What an unknown attribute means, as a hook tells it. -/
def unknown (seeker : Value) (c : ClassId) (name : Value) : Run Value := do
  match name with
  | .str name =>
    match ← Run.read fun σ => Attribute.viaMacro r σ seeker c name with
    | .value v => pure v
    | .next target name => Run.read fun σ => r.read σ target name
  | name => throw (.noAttribute ((← get).typeLabel name) "startswith")

/-- Gives a new class a registry of its own. -/
def subclassed (v : Value) (keywords : Value) : Run Unit := do
  match v, keywords with
  | .cls c, .dict [] => modify fun σ => σ.putInClass c ownField (.dict [])
  | .cls c, _ =>
    throw (.builtinRefused s!"{(← get).className c}.__init_subclass__() takes no keyword arguments")
  | v, _ => throw (.noAttribute ((← get).typeLabel v) ownField)

/-- What a function of the root class does, given the values of its parameters. -/
def perform (n : Native) (values : List Value) : Run Value :=
  match n, values with
  | .registry, [v] => ofClass r v
  | .find, [v, name] => find r v name
  | .register, [v, name, entry] => do
    register r v name entry
    pure .null
  | .registerGlobally, [_, name, entry] => do
    Registry.registerGlobally name entry
    pure .null
  | .adopt, [v, source, replace] => do
    adopt r v source (← BuiltinCall.truth r replace)
    pure .null
  | .holds, [v, name] => do pure (.bool (← holds r v name))
  | .flush, [v] => do
    flush r v
    pure .null
  | .subclassed, [v, keywords] => do
    subclassed v keywords
    pure .null
  | .ofObject, [v, name] => do unknown r v ((← get).classOf v) name
  | .ofClass, [v, name] =>
    match v with
    | .cls c => unknown r v c name
    | v => do
      let _ ← Run.read fun σ => r.read σ v Native.find.name
      throw (.noAttribute ((← get).typeLabel v) "__qualname__")
  | _, _ => pure .null

end MacroStubs.Registration
