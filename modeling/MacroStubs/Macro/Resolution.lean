import MacroStubs.Text.Blank
import MacroStubs.World.Reach

/-! # Resolution

Which class an identifier names. A colon parts the module from the path of attributes within it;
without one, the longest importable module whose path leads to something wins. What cannot be
imported or read names nothing, whatever it raises, but an exit or an interrupt passes.
-/

namespace MacroStubs.Resolution

variable (r : Reach) (importModule : String → Run Unit)

def reporter : String := "macro_stubgen.domain.services.discovery.class_resolver"

/-- Follows a path of attributes. -/
def follow (module : String) (v : Value) : List String → Run (Option Value)
  | [] => pure (some v)
  | name :: rest => do
    match r.read (← get) v name with
    | .ok next => follow module next rest
    | .error f =>
      if f.isAttribute then pure none
      else if f.isHandled then do
        Run.debug reporter ("Cannot read " ++ module ++ "." ++ name ++ ": " ++ f.kind ++ ": " ++
          f.message)
        pure none
      else throw f

/-- What a path of attributes within a module leads to. -/
def load (module : String) (path : List String) : Run (Option Value) := do
  if module.isEmpty then pure none
  else
    match ← Run.attempt (importModule module) with
    | .ok () => follow r module (.moduleRef module) path
    | .error f =>
      if f.isImport then pure none
      else if f.isHandled then do
        Run.debug reporter ("Cannot import " ++ module ++ ": " ++ f.kind ++ ": " ++ f.message)
        pure none
      else throw f

/-- The splits of a dotted identifier into a module and a path, the longest module first. -/
def splits (parts : List String) : List (String × List String) :=
  ((List.range (parts.length - 1)).reverse).map fun i =>
    (".".intercalate (parts.take (i + 1)), parts.drop (i + 1))

/-- What the first split leads to that leads to anything. -/
def loadFirst : List (String × List String) → Run (Option Value)
  | [] => pure none
  | (module, path) :: rest => do
    match ← load r importModule module path with
    | none => loadFirst rest
    | some .null => loadFirst rest
    | some v => pure (some v)

/-- What an identifier leads to. -/
def candidate? (identifier : List Char) : Run (Option Value) :=
  match identifier.dropWhile (· ≠ ':') with
  | _ :: qualname =>
    load r importModule (String.ofList (identifier.takeWhile (· ≠ ':')))
      (Text.pieces '.' (String.ofList qualname))
  | [] => loadFirst r importModule (splits (Text.pieces '.' (String.ofList identifier)))

/-- The class that an identifier names. -/
def resolve (identifier : String) : Run (Option Value) := do
  let identifier := Text.trim identifier
  if identifier.isEmpty then pure none
  else
    match ← candidate? r importModule identifier.toList with
    | some v =>
      if v.isClass then pure (some v)
      else do
        Run.debug reporter ("Class not resolvable, skipping: " ++ identifier)
        pure none
    | none => do
      Run.debug reporter ("Class not resolvable, skipping: " ++ identifier)
      pure none

end Resolution

/-- The classes that identifiers name, each under the first, and the identifiers left over. -/
structure Resolution where
  resolved : List (String × Value) := []
  unresolved : List String := []
  duplicates : List String := []
  deriving Inhabited

namespace Resolution

variable (r : Reach) (importModule : String → Run Unit)

def resolveFrom (done : Resolution) : List String → Run Resolution
  | [] => pure done
  | identifier :: rest => do
    match ← resolve r importModule identifier with
    | none => resolveFrom { done with unresolved := done.unresolved ++ [identifier] } rest
    | some cls =>
      if done.resolved.any fun e => e.2 == cls then do
        Run.debug reporter ("Duplicate class identifier ignored: " ++ identifier)
        resolveFrom { done with duplicates := done.duplicates ++ [identifier] } rest
      else resolveFrom { done with resolved := done.resolved ++ [(identifier, cls)] } rest

/-- Resolves identifiers in their order. -/
def ofIdentifiers (identifiers : List String) : Run Resolution :=
  resolveFrom r importModule {} identifiers

end Resolution

/-- What a resolver keeps of its last call: the identifiers left over. -/
structure Resolver where
  unresolved : List String := []
  duplicates : List String := []
  deriving Inhabited

namespace Resolver

/-- A step of a resolver. What it noted before failing stays. -/
abbrev Step := ExceptT Failure (StateM (Resolver × State))

namespace Step

def lift {α : Type} (x : Run α) : Step α := fun s =>
  let (result, σ) := x.run s.2
  (result, s.1, σ)

/-- Changes the resolver. -/
def note (f : Resolver → Resolver) : Step Unit := modify fun s => (f s.1, s.2)

end Step

variable (r : Reach) (importModule : String → Run Unit)

/-- Resolves identifiers behind those that named these classes. -/
def resolveBehind (resolved : List (String × Value)) : List String → Step (List (String × Value))
  | [] => pure resolved
  | identifier :: rest => do
    match ← Step.lift (Resolution.resolve r importModule identifier) with
    | none => do
      Step.note fun self => { self with unresolved := self.unresolved ++ [identifier] }
      resolveBehind resolved rest
    | some cls =>
      if resolved.any fun e => e.2 == cls then do
        Step.lift (Run.debug Resolution.reporter ("Duplicate class identifier ignored: " ++ identifier))
        Step.note fun self => { self with duplicates := self.duplicates ++ [identifier] }
        resolveBehind resolved rest
      else resolveBehind (resolved ++ [(identifier, cls)]) rest

/-- Resolves identifiers in their order; what an earlier call left over is dropped first. -/
def resolveAll (identifiers : List String) : Step (List (String × Value)) := do
  Step.note fun _ => {}
  resolveBehind r importModule [] identifiers

end MacroStubs.Resolver
