import MacroStubs.Macro.Basic
import MacroStubs.Text.Identifier

/-! # Extraction

The macros that a class holds. Its storage is the first of the known fields that it has; a field
that maps nothing counts as none. Names that no declaration can have are left out.
-/

namespace MacroStubs.Extraction

variable (w : World) (r : Reach)

def reporter : String := "macro_stubgen.domain.services.discovery.macro_extractor"

/-- The fields that may hold macros, in the order in which they are tried. -/
def storageFields : List String := [ownField, sharedField]

/-- What a class tells under a name, as a text. -/
def told (cls : Value) (name : String) : Run String :=
  Run.read fun σ => do
    let v ← r.read σ cls name
    v.shown (labels w r σ)

def qualname (cls : Value) : Run String := told w r cls "__qualname__"

/-- The first field that a class has, if it maps names to macros. -/
def storage? (cls : Value) : List String → Run (Option (String × List (Value × Value)))
  | [] => pure none
  | field :: rest => do
    let σ ← get
    match Attribute.static? σ cls field with
    | none => storage? cls rest
    | some v =>
      match (σ.payload v).entries? with
      | some entries => pure (some (field, entries))
      | none => do
        Run.debug reporter ((← qualname w r cls) ++ "." ++ field ++ " is not a mapping (" ++
          σ.typeName v ++ "), skipping")
        pure none

/-- The entries whose names can be declared; the others are reported. -/
def declarable (cls : Value) : List (Value × Value) → Run (List Entry)
  | [] => pure []
  | (key, v) :: rest =>
    match key.text? with
    | some name =>
      if Text.isDeclarable name then do
        let m := Macro.ofValue (← get) v
        let later ← declarable cls rest
        pure ({ name, entry := m } :: later)
      else do
        refuse key
        declarable cls rest
    | none => do
      refuse key
      declarable cls rest
where
  refuse (key : Value) : Run Unit := do
    let printed ← Run.read fun σ => printedText w r σ key
    Run.report .warning reporter ("Macro " ++ printed ++ " on " ++ (← qualname w r cls) ++
      " is not a valid identifier, skipping")

/-- The macros of a class, none if it holds none that can be declared. -/
def extract (fields : List String) (cls : Value) : Run (Option ClassMacros) := do
  match ← storage? w r cls fields with
  | none => do
    let module ← told w r cls "__module__"
    Run.debug reporter ("No macro storage on " ++ qualifiedName module (← qualname w r cls))
    pure none
  | some (field, entries) => do
    let found ← declarable w r cls entries
    if found.isEmpty then do
      Run.debug reporter ("Empty macro storage " ++ field ++ " on " ++ (← qualname w r cls))
      pure none
    else do
      let module ← Run.read fun σ => r.read σ cls "__module__"
      let className ← Run.read fun σ => r.read σ cls "__name__"
      pure (some { module, className, field, entries := found })

end MacroStubs.Extraction
