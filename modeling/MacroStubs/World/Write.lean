import MacroStubs.World.Descriptor
import MacroStubs.World.Layout

/-! # Writing attributes

What writing an attribute changes. What a class computes may take the value, refuse it, or call for
it; else the value stands among the attributes of its own that the object has.
-/

namespace MacroStubs.Write

variable (r : Reach)

/-- The names at which a function has something that can be written over, with what it has to be. -/
def functionTraits : List (String × Option String) :=
  [("__name__", some "string"), ("__qualname__", some "string"), ("__doc__", none),
   ("__module__", none), ("__defaults__", some "tuple"), ("__kwdefaults__", some "dict"),
   ("__annotations__", some "dict"), ("__code__", some "code")]

/-- Whether a value is what a trait has to be. Defaults may be missing. -/
def suits (name kind : String) (v : Value) : Bool :=
  match kind, v with
  | "string", .str _ => true
  | "tuple", .tuple _ => true
  | "dict", .dict _ => true
  | "code", _ => false
  | _, .null => name != "__name__" && name != "__qualname__"
  | _, _ => false

/-- The attributes that entries under texts are. -/
def spaceOf (entries : List (Value × Value)) : Namespace :=
  entries.filterMap fun e => e.1.text?.map (·, e.2)

def replaceSpace (id : Option String) (new : Value) : Run Unit := do
  match new with
  | .dict entries =>
    match id with
    | some id => modify fun σ => σ.setSpace id (spaceOf entries)
    | none => pure ()
  | new => throw (.dictionaryExpected ((← get).typeLabel new))

def onFunction (f : Value) (name : String) (new : Value) : Run Unit := do
  if name = "__dict__" then replaceSpace f.identity? new
  else
    match functionTraits.lookup name with
    | none => throw .readOnly
    | some kind =>
      if kind.any fun kind => !suits name kind new then
        throw (.typeExpected name (kind.getD ""))
      else
        match f.identity? with
        | some id => modify fun σ => σ.setTrait id name new
        | none => pure ()

/-- Gives a class other bases. -/
def changeBases (id : String) (new : Value) : Run Unit := do
  let σ ← get
  let name := σ.className (.defined id)
  match new with
  | .tuple [] =>
    throw (.builtinRefused s!"can only assign non-empty tuple to {name}.__bases__, not ()")
  | .tuple items =>
    match items.find? (!·.isClass) with
    | some item =>
      throw (.builtinRefused
        s!"{name}.__bases__ must be tuple of classes, not '{σ.typeLabel item}'")
    | none => do
      let bases := items.filterMap fun v => match v with
        | .cls c => some c
        | _ => none
      set (← Run.ofExcept (Layout.withBases σ id bases))
  | new =>
    throw (.builtinRefused s!"can only assign tuple to {name}.__bases__, not {σ.typeLabel new}")

def onClass (c : ClassId) (name : String) (new : Value) : Run Unit := do
  let σ ← get
  match c with
  | .builtin owner => throw (.immutableType (Catalogue.label owner) name)
  | .defined id =>
    match name, new with
    | "__name__", .str _ | "__qualname__", .str _ => set (σ.setTrait id name new)
    | "__name__", new | "__qualname__", new =>
      throw (.classTextExpected (σ.className c) name (σ.typeLabel new))
    | "__module__", new | "__doc__", new | "__annotations__", new | "__abstractmethods__", new =>
      set (σ.setAttribute id name new)
    | "__dict__", _ | "__text_signature__", _ => throw (.notWritable name "type")
    | "__bases__", new => changeBases id new
    | _, _ => throw .readOnly

/-- Makes an object one of another class of the world. -/
def changeClass (v new : Value) : Run Unit := do
  let σ ← get
  let old := σ.classOf v
  match new with
  | .cls c =>
    if Layout.isDefined c && Layout.isDefined old then
      match Layout.fault? σ "__class__" c old, v with
      | some f, _ => throw f
      | none, .objectRef id => set { σ with objects := σ.objects.put id c }
      | none, _ => pure ()
    else
      throw (.builtinRefused
        "__class__ assignment only supported for mutable types or ModuleType subclasses")
  | new =>
    throw (.builtinRefused s!"__class__ must be set to a class, not '{σ.typeLabel new}' object")

/-- Writes what the class of a value computes. -/
def onComputed (v : Value) (owner : ClassId) (name : String) (new : Value) : Run Unit := do
  let σ ← get
  match owner, name, v with
  | .builtin "object", "__class__", v => changeClass v new
  | .defined _, "__dict__", v => replaceSpace v.identity? new
  | .builtin "type", name, .cls c => onClass c name new
  | .builtin "function", name, f => onFunction f name new
  | .builtin "partial", "__dict__", v | .builtin "staticmethod", "__dict__", v
  | .builtin "classmethod", "__dict__", v => replaceSpace v.identity? new
  | .builtin "property", "__doc__", .property (some id) _ => set (σ.setTrait id name new)
  | .builtin "builtin_function_or_method", "__module__", _ => pure ()
  | owner, name, _ =>
    if Catalogue.kindOf owner name = .field then throw .readOnly
    else throw (.notWritable name (σ.labelOf owner))

/-- Writes through what the class of a value holds under the name. -/
def through (raw v new : Value) : Run Unit := do
  let σ ← get
  match raw with
  | .property id _ =>
    throw (.noAccessor "setter" ((id.bind fun id => σ.trait? id "__name__").bind Value.text?)
      (σ.qualname (σ.classOf v)))
  | .member owner member => onComputed v owner member new
  | raw =>
    match σ.inLineage (σ.classOf raw) "__set__" with
    | some setter => do
      let _ ← r.call setter [raw, v, new] []
    | none => throw (.thrown { kind := "AttributeError", message := "__set__" })

/-- Whether a value has attributes of its own. -/
def hasOwn : Value → Bool
  | .function .. | .wrapped .. | .native _ | .partialCall .. | .staticMethod .. | .classMethod ..
  | .objectRef _ | .fresh _ | .moduleRef _ => true
  | _ => false

/-- Writes an attribute that the value has of its own. -/
def own (v : Value) (name : String) (new : Value) : Run Unit := do
  let σ ← get
  match v with
  | .moduleRef module => set (σ.setModuleAttribute module name new)
  | .cls (.defined id) => set (σ.setAttribute id name new)
  | .cls (.builtin owner) => throw (.immutableType (Catalogue.label owner) name)
  | v =>
    if hasOwn v then
      match v.identity? with
      | some id => set (σ.setAttribute id name new)
      | none => pure ()
    else
      match σ.inLineage (σ.classOf v) name with
      | some _ => throw (.readOnlyOn (σ.typeLabel v) name)
      | none => throw (.noAttribute (σ.typeLabel v) name)

/-- Writes an attribute as every class does that does not say otherwise. -/
def generic (v : Value) (name : String) (new : Value) : Run Unit := do
  let σ ← get
  let immutable? : Option String := match v with
    | .cls (.builtin owner) => some (Catalogue.label owner)
    | _ => none
  match immutable?, σ.inLineage (σ.classOf v) name with
  | some owner, _ => throw (.immutableType owner name)
  | none, some raw => if Descriptor.isData σ raw then through r raw v new else own v name new
  | none, none => own v name new

/-- Writes an attribute. -/
def write (v : Value) (name : String) (new : Value) : Run Unit := do
  let σ ← get
  if Descriptor.definesSpecial σ v "__setattr__" then
    match ← Run.ofExcept (Descriptor.special? r σ v "__setattr__") with
    | some writer => do
      let _ ← r.call writer [.str name, new] []
    | none => pure ()
  else generic r v name new

end MacroStubs.Write
