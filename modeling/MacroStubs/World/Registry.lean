import MacroStubs.World.Basic

/-! # Registries

Where macros are registered and found. Each macroable class keeps its own macros, the root class
those of all; a name is sought in the registries along the lineage of a class and last in that of
the root class.
-/

namespace MacroStubs.Registry

variable (σ : State)

/-- The macro of a name in the first registry of these classes that holds it. -/
def firstHolding (name : Value) : List ClassId → Except Failure (Option Value)
  | [] => pure none
  | c :: rest =>
    match σ.inClass c ownField with
    | none => firstHolding name rest
    | some registry => do
      if ← (σ.payload registry).holds σ.classing name then
        let v ← (σ.payload registry).item σ.classing name
        pure (some v)
      else firstHolding name rest

/-- The macro of a name among those of all macroable classes. -/
def shared? (name : Value) : Except Failure (Option Value) :=
  match σ.inClass rootClass sharedField with
  | none => throw (.noClassAttribute rootName sharedField)
  | some registry =>
    match registry.entries? with
    | some entries => do
      Value.requireKey σ.classing name
      pure (Table.get? entries name)
    | none => throw (.noAttribute (σ.typeLabel registry) "get")

/-- The macro that a name means on a class. -/
def find? (c : ClassId) (name : Value) : Except Failure (Option Value) := do
  match ← firstHolding σ name (σ.lineage c) with
  | some v => pure (some v)
  | none => shared? σ name

/-- The field in which a class keeps what is registered on it. -/
def fieldOf (c : ClassId) : String := if c = rootClass then sharedField else ownField

/-- The registry that a class writes to. -/
def of (c : ClassId) : Except Failure Value :=
  match σ.inClass c (fieldOf c) with
  | some v => pure v
  | none =>
    if c = rootClass then throw (.noClassAttribute rootName sharedField)
    else throw (.keyMissing (Text.quote ownField))

/-- Registers a macro on a class. -/
def register (c : ClassId) (name entry : Value) : Run Unit := do
  let registry ← Run.read fun σ => of σ c
  let classing := (← get).classing
  let registry ← Run.ofExcept (registry.withItem classing name entry)
  modify fun σ => σ.putInClass c (fieldOf c) registry

/-- Registers a macro for all macroable classes. -/
def registerGlobally (name entry : Value) : Run Unit := register rootClass name entry

/-- Removes the macros registered on a class. -/
def flush (c : ClassId) : Run Unit := do
  let registry ← Run.read fun σ => of σ c
  let classing := (← get).classing
  let registry ← Run.ofExcept (registry.emptied classing)
  modify fun σ => σ.putInClass c (fieldOf c) registry

/-- Registers the members of a source whose names begin with no low line: `holds` tells whether a name
means a macro already, `put` registers one. A name that does is left alone unless `replace`. -/
def adoptAll (holds : Value → Run Bool) (put : Value → Value → Run Unit) (replace : Bool) :
    List (String × Value) → Run Unit
  | [] => pure ()
  | (name, member) :: rest => do
    if Text.beginsWith name "_" then adoptAll holds put replace rest
    else do
      let wanted ← if replace then pure true else do pure (!(← holds (.str name)))
      if wanted then put (.str name) member
      adoptAll holds put replace rest

end MacroStubs.Registry
