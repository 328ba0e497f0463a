import MacroStubs.Text.Blank
import MacroStubs.World.Reach

/-! # Imports

Importing a module imports its parents first, then runs its body once. A module whose body fails is
forgotten; one that is running or was imported is not run again.
-/

namespace MacroStubs.Import

variable (w : World) (r : Reach)

/-- The attribute that tells where the modules below a module are sought. -/
def pathField : String := "__path__"

/-- The name of a module, given its parts from the last to the first. -/
def joined (parts : List String) : String := ".".intercalate parts.reverse

def isImported (σ : State) (name : String) : Bool := (σ.modules.get? name).isSome

/-- Whether a module has modules below it. -/
def isPackage (name : String) : Bool :=
  w.modules.any fun m => Text.beginsWith m.name (name ++ ".")

/-- The attributes that a module has before its body runs. -/
def attributesOf (name : String) : Namespace :=
  let parent := ".".intercalate (name.splitOn ".").dropLast
  [("__name__", .str name), ("__doc__", .null), ("__loader__", .anonymous "Loader"),
    ("__spec__", .anonymous "ModuleSpec")] ++
    (if isPackage w name then [("__package__", .str name), (pathField, .list [])]
     else [("__package__", .str parent)])

def putAttributes (module : String) (attributes : List (String × Value)) (σ : State) : State :=
  attributes.foldl (fun σ (name, v) => σ.setModuleAttribute module name v) σ

/-- Runs the body of a module, which is there while its body runs and forgotten if it fails. -/
def load (body : ModuleInfo → Run Unit) (m : ModuleInfo) : Run Unit := do
  modify fun σ =>
    { σ with
      executed := σ.executed ++ [m.name]
      modules := σ.modules.put m.name (attributesOf w m.name) }
  modify (putAttributes m.name m.attributes)
  match ← Run.attempt (body m) with
  | .ok () =>
    match m.failure with
    | none => pure ()
    | some t => do
      forget m.name
      throw (.raised t)
  | .error f => do
    forget m.name
    throw f
where
  forget (name : String) : Run Unit :=
    modify fun σ => { σ with modules := σ.modules.erase name }

/-- Imports the module whose parts are given from the last to the first. -/
def ensure (body : ModuleInfo → Run Unit) : List String → Run Unit
  | [] => pure ()
  | part :: parents => do
    let name := joined (part :: parents)
    if isImported (← get) name then pure ()
    else do
      if !parents.isEmpty then
        if !isImported (← get) (joined parents) then ensure body parents
      if isImported (← get) name then pure ()
      else do
        if !parents.isEmpty then requirePackage name (joined parents)
        match w.module? name with
        | none => throw (.moduleMissing name)
        | some m => do
          load w body m
          if !parents.isEmpty then
            modify fun σ => σ.setModuleAttribute (joined parents) part (.moduleRef name)
where
  /-- Modules are sought only below one that tells where. -/
  requirePackage (name parent : String) : Run Unit := do
    match ← Run.read fun σ => r.find? σ (.moduleRef parent) pathField with
    | some _ => pure ()
    | none => throw (.notPackage name parent)

/-- Imports a module by its dotted name. -/
def byName (body : ModuleInfo → Run Unit) (name : String) : Run Unit :=
  if name.toList.head? = some '.' then throw (.relativeModule name)
  else if name.isEmpty then throw .emptyModuleName
  else ensure w r body (Text.pieces '.' name).reverse

end MacroStubs.Import
