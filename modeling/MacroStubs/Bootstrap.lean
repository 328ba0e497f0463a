import MacroStubs.World.Basic

/-! # Bootstrapping

Preparing an application: the modules that register its macros are imported in their order, sought
below its base path first.
-/

namespace MacroStubs

namespace Bootstrap

def reporter : String := "macro_stubgen.application.bootstrap"

/-- Puts a directory first among the places where modules are sought, unless it is one already. -/
def addPath (base : Path) : Run Unit := do
  let σ ← get
  let root := (σ.host.files.cwd.resolve base).text
  if σ.searchPath.contains root then pure ()
  else do
    modify fun σ => { σ with searchPath := root :: σ.searchPath }
    Run.debug reporter ("Added " ++ root ++ " to sys.path")

def importAll (importModule : String → Run Unit) : List String → Run Unit
  | [] => pure ()
  | name :: rest => do
    Run.debug reporter ("Bootstrapping " ++ name)
    importModule name
    importAll importModule rest

/-- Imports modules in their order, sought below a base path. -/
def run (importModule : String → Run Unit) (modules : List String) (base : Option Path) :
    Run Unit := do
  match base with
  | some base => addPath base
  | none => pure ()
  importAll importModule modules

end Bootstrap
end MacroStubs
