import MacroStubs.World.Basic
import MacroStubs.World.Native

/-! # Functions

What a function has at fixed names: its own name, its documentation, the defaults of its parameters.
A function is made with them and they can be written over.
-/

namespace MacroStubs.Function

variable (σ : State)

def rootModule : String := reporterFamily ++ ".macroable"

/-- The parameters that a function is made with. -/
def madeWith : Value → List (Parameter Value)
  | .function _ _ parameters _ _ => parameters
  | .native n => n.parameters
  | .wrapped .. =>
    [{ name := "args", kind := .extraPositional }, { name := "kwargs", kind := .extraKeyword }]
  | _ => []

/-- The defaults of the parameters that positional arguments reach. -/
def positionalDefaults (ps : List (Parameter Value)) : Value :=
  match (ps.filter (·.kind.isPositional)).filterMap (·.default) with
  | [] => .null
  | defaults => .tuple defaults

/-- The defaults of the parameters that keyword arguments alone reach. -/
def keywordDefaults (ps : List (Parameter Value)) : Value :=
  match (ps.filter (·.kind = .keywordOnly)).filterMap fun p => p.default.map (Value.str p.name, ·) with
  | [] => .null
  | defaults => .dict defaults

/-- What a function is made with at a fixed name. -/
def made (f : Value) (name : String) : Value :=
  match name, f with
  | "__name__", .function _ name .. => .str name
  | "__qualname__", .function _ name .. => .str name
  | "__name__", .native n => .str n.name
  | "__qualname__", .native n => .str n.qualname
  | "__name__", _ => .str "wrapper"
  | "__qualname__", _ => .str "wrapper"
  | "__doc__", .function _ _ _ doc _ => doc
  | "__doc__", .native n => n.doc
  | "__module__", .native _ => .str rootModule
  | "__module__", _ => .str "app"
  | "__defaults__", f => positionalDefaults (madeWith f)
  | "__kwdefaults__", f => keywordDefaults (madeWith f)
  | "__annotations__", _ => .dict []
  | "__globals__", _ => .dict []
  | "__builtins__", _ => .dict []
  | "__code__", _ => .anonymous "code"
  | _, _ => .null

/-- What a function has at a fixed name. Annotations that are taken away are empty. -/
def trait (f : Value) (name : String) : Value :=
  match f.identity?.bind fun id => σ.trait? id name with
  | some .null => if name = "__annotations__" then made f name else .null
  | some v => v
  | none => made f name

def qualname (f : Value) : String := ((trait σ f "__qualname__").text?).getD ""

/-- Gives the last of these parameters the defaults, the others none. -/
def withDefaults (ps : List (Parameter Value)) (defaults : List Value) : List (Parameter Value) :=
  let bare :=
    if defaults.length ≤ ps.length then ps.length - defaults.length
    else ps.length - (defaults.length - ps.length)
  (ps.take bare).map (fun p => { p with default := none }) ++
    (ps.drop bare).mapIdx fun i p => { p with default := defaults[i]? }

/-- The parameters of a function with the defaults that it has now. -/
def parameters (f : Value) : List (Parameter Value) :=
  let ps := madeWith f
  let positional := ps.filter (·.kind.isPositional)
  let positional := match trait σ f "__defaults__" with
    | .tuple defaults => withDefaults positional defaults
    | _ => withDefaults positional []
  let keywords := match trait σ f "__kwdefaults__" with
    | .dict entries => entries
    | _ => []
  positional ++ (ps.filter (!·.kind.isPositional)).map fun p =>
    if p.kind = .keywordOnly then { p with default := Table.get? keywords (Value.str p.name) } else p

/-- The documentation of a function. -/
def documentation (f : Value) : Value := trait σ f "__doc__"

end MacroStubs.Function
