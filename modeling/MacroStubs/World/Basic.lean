import MacroStubs.Action
import MacroStubs.Host.Logging
import MacroStubs.Value.Container
import MacroStubs.Value.Print
import MacroStubs.World.Lineage

/-! # Worlds

A world is what never changes: which modules can be imported. Its state is what does: the classes,
of which class each object is, the attributes of classes, objects, callables and imported modules, the
places where modules are sought, and the host.
-/

namespace MacroStubs

abbrev Namespace := Table String Value

structure ClassInfo where
  /-- The base whose objects those of the class extend. -/
  base : ClassId
  bases : List ClassId
  /-- The class itself, then its ancestors in the order of look-up. -/
  lineage : List ClassId
  metaclass : ClassId
  /-- The documentation that the class was made with. -/
  about : Option String := none
  deriving Inhabited

/-- A module that can be imported. -/
structure ModuleInfo where
  name : String
  attributes : List (String × Value) := []
  /-- Names whose reading raises. -/
  refused : List (String × Thrown) := []
  body : List Action := []
  failure : Option Thrown := none

/-- The class that all macroable classes descend from. -/
def rootName : String := "Macroable"

def rootClass : ClassId := .defined rootName

def metaName : String := "class of macroable classes"

/-- The class of macroable classes. -/
def rootMetaclass : ClassId := .defined metaName

def objectClass : ClassId := .builtin "object"

/-- The attribute that holds the macros of one class. -/
def ownField : String := "_macros"

/-- The attribute that holds the macros of all macroable classes. -/
def sharedField : String := "_global_macros"

/-- What marks a macro that takes the object it is called on. -/
def receiverMark : String := "@instantiated"

structure World where
  modules : List ModuleInfo := []
  /-- What stands for a place in memory. -/
  address : String

structure State where
  classes : Table String ClassInfo := []
  /-- The class of each object. -/
  objects : Table String ClassId := []
  /-- The attributes of classes, objects and callables. -/
  spaces : Table String Namespace := []
  /-- What callables, classes and properties have at fixed names besides their attributes. -/
  traits : Table String Namespace := []
  /-- The modules imported, or being imported, with their attributes. -/
  modules : Table String Namespace := []
  searchPath : List String := []
  /-- The modules whose bodies were run. -/
  executed : List String := []
  host : Host

/-- A step that changes the state and may fail; what it did before failing stays. -/
abbrev Run := ExceptT Failure (StateM State)

namespace Run

def ofExcept {α : Type} (e : Except Failure α) : Run α := fun σ => (e, σ)

/-- Reads the state without changing it. -/
def read {α : Type} (f : State → Except Failure α) : Run α := fun σ => (f σ, σ)

/-- Changes the host. -/
def onHost (f : Host → Host) : Run Unit := modify fun σ => { σ with host := f σ.host }

def report (level : Level) (reporter message : String) : Run Unit :=
  onHost (·.log { level, reporter, message })

def debug (reporter message : String) : Run Unit := report .debug reporter message

/-- The outcome of a step, whose changes stay even if it failed. -/
def attempt {α : Type} (step : Run α) : Run (Except Failure α) := fun σ =>
  let (result, σ) := step.run σ
  (.ok result, σ)

/-- Times a step: reports how long it took, or that it failed. -/
def timed {α : Type} (reporter name : String) (step : Run α) : Run α := do
  match ← attempt step with
  | .ok v =>
    let elapsed := (← get).host.readings.elapsed
    debug reporter (name ++ " finished in " ++ elapsed ++ "s")
    pure v
  | .error f =>
    if f.isHandled then
      let elapsed := (← get).host.readings.elapsed
      report .error reporter
        (name ++ " failed after " ++ elapsed ++ "s: " ++ f.kind ++ ": " ++ f.message)
    throw f

end Run

namespace State

/-- The attributes of a class or object. -/
def space (σ : State) (id : String) : Namespace := (σ.spaces.get? id).getD []

def setSpace (σ : State) (id : String) (space : Namespace) : State :=
  { σ with spaces := σ.spaces.put id space }

def setAttribute (σ : State) (id name : String) (v : Value) : State :=
  σ.setSpace id ((σ.space id).put name v)

def trait? (σ : State) (id name : String) : Option Value := (σ.traits.get? id).bind (·.get? name)

def setTrait (σ : State) (id name : String) (v : Value) : State :=
  { σ with traits := σ.traits.put id (((σ.traits.get? id).getD []).put name v) }

def setModuleAttribute (σ : State) (module name : String) (v : Value) : State :=
  match σ.modules.get? module with
  | some space => { σ with modules := σ.modules.put module (space.put name v) }
  | none => σ

/-- The lineage of a class. -/
def lineage (σ : State) : ClassId → List ClassId
  | .builtin name => Catalogue.lineage name
  | .defined id => ((σ.classes.get? id).map (·.lineage)).getD [.defined id, objectClass]

/-- What a class keeps under a name itself. -/
def inClass (σ : State) (c : ClassId) (name : String) : Option Value :=
  match c with
  | .builtin owner => Catalogue.find? owner name
  | .defined id => (σ.space id).get? name

/-- Puts an attribute into a class of the world. -/
def putInClass (σ : State) (c : ClassId) (name : String) (v : Value) : State :=
  match c with
  | .builtin _ => σ
  | .defined id => σ.setAttribute id name v

/-- What a class or the first of its ancestors keeps under a name, without any hook. -/
def inLineage (σ : State) (c : ClassId) (name : String) : Option Value :=
  (σ.lineage c).findSome? fun k => σ.inClass k name

/-- Whether a class has a registry of macros. -/
def isMacroable (σ : State) (c : ClassId) : Bool := (σ.lineage c).contains rootClass

def metaclass (σ : State) : ClassId → ClassId
  | .builtin _ => .builtin "type"
  | .defined id => ((σ.classes.get? id).map (·.metaclass)).getD (.builtin "type")

/-- The class of a value. -/
def classOf (σ : State) : Value → ClassId
  | .cls c => σ.metaclass c
  | .objectRef id => (σ.objects.get? id).getD objectClass
  | .fresh c => c
  | v => .builtin v.builtinClass

def className (σ : State) : ClassId → String
  | .builtin name => name
  | .defined id => ((σ.trait? id "__name__").bind Value.text?).getD id

/-- The name of a class in messages about its objects. -/
def labelOf (σ : State) : ClassId → String
  | .builtin name => Catalogue.label name
  | .defined id => σ.className (.defined id)

def qualname (σ : State) : ClassId → String
  | .builtin name => name
  | .defined id => ((σ.trait? id "__qualname__").bind Value.text?).getD id

/-- The module of a class. Classes of a world may have any value in its place. -/
def classModule (σ : State) : ClassId → Option Value
  | .builtin name => some (.str (((Catalogue.class? name).map (·.module)).getD "builtins"))
  | .defined id => (σ.space id).get? "__module__"

/-- The qualified name of a class, with its module if this is named and not that of built-ins. -/
def fullName (σ : State) (c : ClassId) : String :=
  match σ.classModule c with
  | some (.str module) =>
    if module = "builtins" then σ.labelOf c else module ++ "." ++ σ.qualname c
  | _ => σ.labelOf c

/-- The name of the class of a value. -/
def typeName (σ : State) (v : Value) : String := σ.className (σ.classOf v)

/-- The name of the class of a value in messages about it. -/
def typeLabel (σ : State) (v : Value) : String := σ.labelOf (σ.classOf v)

/-- Whether a value is an object of a class or of one below it. -/
def isInstance (σ : State) (v : Value) (c : ClassId) : Bool := (σ.lineage (σ.classOf v)).contains c

/-- Whether a value can be called. -/
def isCallable (σ : State) (v : Value) : Bool := (σ.inLineage (σ.classOf v) "__call__").isSome

/-- What an object of a class below a built-in one holds as such; any other value is its own. -/
def payload (σ : State) (v : Value) : Value :=
  match v with
  | .objectRef _ | .fresh _ =>
    if σ.isInstance v (.builtin "dict") then .dict []
    else if σ.isInstance v (.builtin "list") then .list []
    else if σ.isInstance v (.builtin "int") then .int 0
    else v
  | v => v

/-- What containers need to know of the classes of values. -/
def classing (σ : State) : Value.Classing where
  classOf := σ.classOf
  labelOf := σ.labelOf
  areKeys c :=
    match σ.inLineage c "__hash__" with
    | some .null => false
    | _ => true

end State

namespace World

def module? (w : World) (name : String) : Option ModuleInfo :=
  w.modules.find? (·.name == name)

end World
end MacroStubs
