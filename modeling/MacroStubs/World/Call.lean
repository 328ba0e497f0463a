import MacroStubs.Value.Arguments
import MacroStubs.World.MemberCall
import MacroStubs.World.Registration

/-! # Calls

What a call gives. A function of a world records its arguments, returns a value or raises; an object
is called through its class, and calling a class makes an object.
-/

namespace MacroStubs

namespace Call

variable (w : World) (r : Reach)

/-- Keyword arguments put over others. -/
def overlay (first second : Table String Value) : Table String Value :=
  second.foldl (fun t (n, v) => t.put n v) first

/-- The parameters of a function with the values that arguments give them. -/
def valuesOf (f : Value) (arguments : List Value) (keywords : Table String Value) :
    Run (List (String × Value)) := do
  let σ ← get
  match Arguments.ofCall (Function.parameters σ f) arguments keywords with
  | .ok values => pure values
  | .error fault => throw (.callRefused (Function.qualname σ f) fault)

/-- The object that a class makes. -/
def made (c : ClassId) (arguments : List Value) (keywords : Table String Value) : Run Value := do
  let σ ← get
  match σ.inLineage c "__new__" with
  | some (.memberOf owner name self) =>
    MemberCall.onObject w r owner name self (.cls c :: arguments) keywords
  | some raw => do
    let maker ← Run.ofExcept (Descriptor.get r σ raw none (.cls c))
    r.call maker (.cls c :: arguments) keywords
  | none => MemberCall.blank c false

/-- What is done to a new object. Plain data are made as a whole. -/
def initialise (v : Value) (arguments : List Value) (keywords : Table String Value) :
    Run Unit := do
  let σ ← get
  let cls := σ.classOf v
  match σ.inLineage cls "__init__" with
  | some (.member (.builtin "object") _) =>
    if !(arguments.isEmpty && keywords.isEmpty) &&
        !MemberCall.toleratesExcess σ cls "__init__" "__new__" then
      throw (.noArguments (σ.className cls))
  | some (.member (.builtin owner) _) =>
    if owner = "dict" || owner = "list" then
      let _ ← BuiltinCall.convert? w r owner arguments keywords
    else pure ()
  | some (.member ..) | none => pure ()
  | some raw => do
    let f ← Run.ofExcept (Descriptor.get r σ raw (some v) (.cls cls))
    match ← r.call f arguments keywords with
    | .null => pure ()
    | other => throw (.initResult ((← get).typeLabel other))

/-- Calls a class. -/
def construct (c : ClassId) (arguments : List Value) (keywords : Table String Value) :
    Run Value := do
  let v ← made w r c arguments keywords
  if (← get).isInstance v c then initialise w r v arguments keywords
  pure v

/-- Calls an object through its class. -/
def ofObject (v : Value) (arguments : List Value) (keywords : Table String Value) : Run Value := do
  let σ ← get
  match ← Run.ofExcept (Descriptor.special? r σ v "__call__") with
  | some f => r.call f arguments keywords
  | none => throw (.uncallable (σ.typeLabel v))

/-- Calls a value. -/
def dispatch (v : Value) (arguments : List Value) (keywords : Table String Value) : Run Value :=
  match v with
  | .function id _ _ _ outcome => do
    let values ← valuesOf v arguments keywords
    match outcome with
    | .record => pure (.callRecord id values)
    | .returns answer => pure answer
    | .raises t => throw (.raised t)
  | .wrapped _ inner => r.call inner arguments keywords
  | .native n => do
    let values ← valuesOf v arguments keywords
    Registration.perform r n (values.map (·.2))
  | .builtin b => BuiltinCall.function w r b arguments keywords
  | .partialCall _ inner first kept => r.call inner (first ++ arguments) (overlay kept keywords)
  | .staticMethod _ inner => r.call inner arguments keywords
  | .bound _ inner self => r.call inner (self :: arguments) keywords
  | .member owner name => MemberCall.unbound w r owner name arguments keywords
  | .memberOf owner name self => MemberCall.onObject w r owner name self arguments keywords
  | .cls c => construct w r c arguments keywords
  | .objectRef _ | .fresh _ => ofObject r v arguments keywords
  | v => do throw (.uncallable ((← get).typeLabel v))

end Call

/-- How a world's attributes are read and its callables called, where one leads to at most `n` others
within each other. -/
def Reach.within (w : World) : Nat → Reach
  | 0 => Reach.none
  | n + 1 => {
      read := fun σ v name => Attribute.readThrough w (within w n) σ v name
      call := fun v arguments keywords => Call.dispatch w (within w n) v arguments keywords }

/-- How a world's attributes are read and its callables called. -/
def Reach.of (w : World) : Reach := Reach.within w Value.maxNesting

end MacroStubs
