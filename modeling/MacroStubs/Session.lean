import MacroStubs.Bootstrap
import MacroStubs.Generator
import MacroStubs.World.Import

/-! # Sessions

What an action does to a state and what it answers. The body of a module performs actions too, so
importing and acting depend on each other; a chain of imports is no longer than there are modules.
-/

namespace MacroStubs

/-- A macro as it is described on its own. -/
structure Description where
  name : String
  entry : Macro
  parameters : Except Failure (List (Parameter Value))
  docstring : Except Failure (Option String)

/-- The macros of a class with their descriptions. -/
structure Listing where
  macros : ClassMacros
  qualifiedName : String
  entries : List Description

inductive Answer where
  | nothing
  | value (v : Value)
  | flag (b : Bool)
  | entries (es : List (Value × Value))
  | text (s : String)
  | resolution (r : Resolution)
  | storage (found : Option (String × List Value))
  | listing (found : Option Listing)
  | description (d : Description)
  | collected (p : Progress) (listings : List Listing)
  | rendered (p : Progress) (text : String)
  | written (path content : String)
  | added (paths : List String)
  /-- A failure that left some text behind. -/
  | interrupted (f : Failure) (text : Option String)

namespace Session

variable (w : World) (r : Reach)

/-- The entries of the registry that a class tells. -/
def registryEntries (target : Value) : Run (List (Value × Value)) := do
  let registry ← Registration.registry r target
  let σ ← get
  match (σ.payload registry).entries? with
  | some entries => pure entries
  | none => throw (.noAttribute (σ.typeLabel registry) "items")

def describe (σ : State) (e : Entry) : Description :=
  { name := e.name
    entry := e.entry
    parameters := e.entry.parameters w r σ
    docstring := e.entry.docstring r σ }

def list (c : ClassMacros) : Run Listing := do
  let σ ← get
  let module ← Run.ofExcept (c.module.shown (labels w r σ))
  let className ← Run.ofExcept (c.className.shown (labels w r σ))
  pure { macros := c
         qualifiedName := MacroStubs.qualifiedName module className
         entries := c.entries.map (describe w r σ) }

def entryOf (σ : State) (name : String) (v : Value) : Entry := { name, entry := Macro.ofValue σ v }

def macrosOf (σ : State) (roster : Roster) : ClassMacros :=
  { module := .str roster.module
    className := .str roster.className
    entries := roster.macros.map fun (name, v) => entryOf σ name v }

/-- The text written on a fresh sheet. -/
def written (writing : Writing Unit) : Run String := do
  let (result, sheet) := writing.run {}
  Run.onHost (·.logAll sheet.notes)
  Run.ofExcept result
  pure sheet.text

variable (importModule : String → Run Unit)

/-- What an action does and answers. -/
def act : Action → Run Answer
  | .register target name entry => do
    let _ ← r.invoke target Native.register.name [name, entry] []
    pure .nothing
  | .registerGlobally target name entry => do
    let _ ← r.invoke target Native.registerGlobally.name [name, entry] []
    pure .nothing
  | .flush target => do
    let _ ← r.invoke target Native.flush.name [] []
    pure .nothing
  | .hasMacro target name => .value <$> r.invoke target Native.holds.name [name] []
  | .adopt target source replace => do
    let keywords := match replace with
      | some b => [("replace", Value.bool b)]
      | none => []
    let _ ← r.invoke target Native.adopt.name [source] keywords
    .entries <$> registryEntries r target
  | .registry target => .entries <$> registryEntries r target
  | .get target name => .value <$> Run.read fun σ => r.read σ target name
  | .hasAttribute target name => do
    let found ← Run.read fun σ => r.find? σ target name
    pure (.flag found.isSome)
  | .set target name v => do
    Write.write r target name v
    pure .nothing
  | .call target name arguments keywords =>
    .value <$> r.invoke target name arguments keywords
  | .resolve identifier => do
    match ← Resolution.resolve r importModule identifier with
    | some v => pure (.value v)
    | none => pure .nothing
  | .resolveAll identifiers =>
    .resolution <$> Resolution.ofIdentifiers r importModule identifiers
  | .findStorage target fields => do
    let found ← Extraction.storage? w r target (fields.getD Extraction.storageFields)
    pure (.storage (found.map fun (field, es) => (field, es.map (·.1))))
  | .extract target fields => do
    let found ← Extraction.extract w r (fields.getD Extraction.storageFields) target
    pure (.listing (← found.mapM (list w r)))
  | .describe name v => do
    let σ ← get
    pure (.description (describe w r σ (entryOf σ name v)))
  | .declare owner name v => do
    let σ ← get
    let reflection := (entryOf σ name v).reflect w r σ
    let text ← written (Declaration.write (labels w r σ) owner reflection)
    pure (.text text)
  | .declareAll classes => do
    let σ ← get
    let reflected := classes.map fun roster => (macrosOf σ roster).reflect w r σ
    let text ← written (Declaration.writeStub (labels w r σ) reflected)
    pure (.text text)
  | .collect identifiers => do
    let (p, found) ← Generator.collected w r importModule identifiers
    pure (.collected p (← found.mapM (list w r)))
  | .render identifiers => do
    let (p, result, text) ← Generator.render w r importModule identifiers
    Run.ofExcept result
    pure (.rendered p text)
  | .writeTo identifiers => do
    match ← Run.attempt (Generator.render w r importModule identifiers) with
    | .error f => pure (.interrupted f (some ""))
    | .ok (_, .error f, text) => pure (.interrupted f (some text))
    | .ok (p, .ok (), text) => pure (.rendered p text)
  | .write identifiers path => do
    let path := (← get).host.files.cwd.join (Path.ofText path)
    match ← Run.attempt (Generator.write w r importModule identifiers path) with
    | .ok p => pure (.written p.text (content (← get) p))
    | .error f => do
      match (← get).host.files.find? path with
      | some (.file text) => pure (.interrupted f (some text))
      | _ => pure (.interrupted f none)
  | .bootstrap modules base => do
    let before := (← get).searchPath.length
    Bootstrap.run importModule modules (base.map Path.ofText)
    let now := (← get).searchPath
    pure (.added (now.take (now.length - before)))
where
  content (σ : State) (p : Path) : String :=
    match σ.host.files.find? p with
    | some (.file text) => text
    | _ => ""

/-- Runs an action of a world. -/
def run (a : Action) : Run Answer := act w (Reach.of w) importModule a

/-- Runs an action for what it does; what interrupts it is raised. -/
def runFor (a : Action) : Run Unit := do
  match ← run w importModule a with
  | .interrupted f _ => throw f
  | _ => pure ()

end Session

namespace Import

/-- Imports a module whose import leads to at most `depth` further ones within each other. -/
def within (w : World) : Nat → String → Run Unit
  | 0 => byName w (Reach.of w) fun _ => throw .nestingTooDeep
  | depth + 1 => byName w (Reach.of w) fun m => m.body.forM (Session.runFor w (within w depth))

end Import

/-- Imports a module. A module that is being imported is not imported anew, so imports within each
other are no more than there are modules. -/
def importModule (w : World) : String → Run Unit := Import.within w w.modules.length

end MacroStubs
