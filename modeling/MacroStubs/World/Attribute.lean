import MacroStubs.World.Descriptor
import MacroStubs.World.Documentation
import MacroStubs.World.Registry

/-! # Attributes

What reading an attribute gives. A name that ordinary look-up does not find is left to the hook that
the class of the value may have. The hooks of macroable classes and their objects seek the name among
the macros. A macro that is a pair leads on to the attribute of its first item that the second names;
a plain function with the mark is bound to the object.
-/

namespace MacroStubs.Attribute

variable (w : World) (r : Reach) (σ : State)

/-- The attribute of an object that ordinary look-up finds: what its class computes, its own, then any
other of its class. -/
def ofObject? (v : Value) (name : String) : Except Failure (Option Value) :=
  let cls := σ.classOf v
  let own := (Descriptor.spaceOf σ v).get? name
  match σ.inLineage cls name, own with
  | some raw, some found =>
    if Descriptor.isData σ raw then some <$> Descriptor.get r σ raw (some v) (.cls cls)
    else pure (some found)
  | some raw, none => some <$> Descriptor.get r σ raw (some v) (.cls cls)
  | none, own => pure own

/-- The attribute of a class that ordinary look-up finds: what the class of the class computes, its
own or that of an ancestor, then any other of the class of the class. -/
def ofClass? (c : ClassId) (name : String) : Except Failure (Option Value) :=
  let v := Value.cls c
  let above := σ.metaclass c
  let through raw := some <$> Descriptor.get r σ raw (some v) (.cls above)
  match σ.inLineage above name, σ.inLineage c name with
  | some raw, some own =>
    if Descriptor.isData σ raw then through raw else some <$> Descriptor.get r σ own none v
  | some raw, none => through raw
  | none, some own => some <$> Descriptor.get r σ own none v
  | none, none => pure none

/-- The attribute of a module; some names may raise. -/
def ofModule (module name : String) : Except Failure Value := do
  match ← ofObject? r σ (.moduleRef module) name with
  | some v => pure v
  | none =>
    match ((σ.modules.get? module).getD []).get? "__getattr__" with
    | some hook => r.value σ hook [.str name]
    | none =>
      match (w.module? module).bind fun m => Table.get? m.refused name with
      | some t => throw (.raised t)
      | none => throw (.noModuleAttribute module name)

/-- The attribute that ordinary look-up finds. -/
def ordinary (v : Value) (name : String) : Except Failure Value :=
  match v with
  | .moduleRef module => ofModule w r σ module name
  | .cls c => do
    match ← ofClass? r σ c name with
    | some found => pure found
    | none => throw (.noClassAttribute (σ.labelOf c) name)
  | .bound _ inner _ =>
    match σ.inLineage (.builtin "method") name with
    | some raw => Descriptor.get r σ raw (some v) (.cls (.builtin "method"))
    | none => r.read σ inner name
  | v => do
    if Descriptor.definesSpecial σ v "__getattribute__" then
      match ← Descriptor.special? r σ v "__getattribute__" with
      | some reader => r.value σ reader [.str name]
      | none => throw (.noAttribute (σ.typeLabel v) name)
    else
      match ← ofObject? r σ v name with
      | some found => pure found
      | none => throw (.noAttribute (σ.typeLabel v) name)

/-- Where reading a macro leads: to a value, or on to an attribute of another one. -/
inductive Step where
  | value (v : Value)
  | next (target : Value) (name : String)

/-- What a macro means that was found for an attribute of `seeker`. -/
def ofMacro (seeker entry : Value) : Step :=
  let bound := !seeker.isClass && entry.isPlainFunction &&
    isMarked (shownDocumentation (Function.documentation σ entry))
  if bound then .value (.bound none entry seeker)
  else
    match entry.pair? with
    | some (target, name) => .next target name
    | none => .value entry

/-- The macro that a class says a name means. A class may say so in a way of its own. -/
def sought (c : ClassId) (name : Value) : Except Failure (Option Value) :=
  match σ.inLineage c Native.find.name with
  | some (.classMethod _ (.native .find)) => Registry.find? σ c name
  | _ => do
    let seek ← r.read σ (.cls c) Native.find.name
    let found ← r.value σ seek [name]
    pure (if found.isMissing then none else some found)

/-- The macro of an attribute that ordinary look-up did not find. -/
def viaMacro (seeker : Value) (c : ClassId) (name : String) : Except Failure Step :=
  if Text.beginsWith name "__" then throw (.unknownName name)
  else do
    match ← sought r σ c (.str name) with
    | none => throw (.macroNotFound (σ.qualname c) name)
    | some entry => pure (ofMacro σ seeker entry)

/-- What the hook for unknown attributes answers that the class of a value has, if it has one. -/
def viaHook (v : Value) (name : String) (f : Failure) : Except Failure Step :=
  match σ.inLineage (σ.classOf v) "__getattr__", v with
  | some (.native .ofClass), .cls c => viaMacro r σ v c name
  | some (.native .ofObject), v => viaMacro r σ v (σ.classOf v) name
  | some raw, v => do
    let hook ← Descriptor.get r σ raw (some v) (.cls (σ.classOf v))
    .value <$> r.value σ hook [.str name]
  | none, _ => throw f

/-- One step of reading an attribute. -/
def step (v : Value) (name : String) : Except Failure Step :=
  match ordinary w r σ v name with
  | .ok found => pure (.value found)
  | .error f => if f.isAttribute then viaHook r σ v name f else throw f

/-- Reads an attribute in at most `n` steps. -/
def readIn : Nat → Value → String → Except Failure Value
  | 0, _, _ => throw .nestingTooDeep
  | n + 1, v, name => do
    match ← step w r σ v name with
    | .value found => pure found
    | .next target name => readIn n target name

/-- The entries of a namespace's mappings: no fewer than there are pairs to lead on. -/
def mapped (space : Namespace) : List (Value × Value) :=
  space.flatMap fun e => (e.2.entries?).getD []

def totalEntries (spaces : Table String Namespace) : Nat :=
  (spaces.flatMap fun e => mapped e.2).length

/-- Reads an attribute. More steps than there are registered pairs, and classes that name one in a way
of their own, lead back to an earlier one, and so never to an end. -/
def readThrough (v : Value) (name : String) : Except Failure Value :=
  readIn w r σ (totalEntries σ.spaces + σ.classes.length + 2) v name

/-- The attribute of a value without any hook. -/
def static? (v : Value) (name : String) : Option Value :=
  let cls := match v with
    | .cls c => c
    | v => σ.classOf v
  let own := if v.isClass || hidesOwn cls then none else (Descriptor.spaceOf σ v).get? name
  match own, σ.inLineage cls name with
  | some found, some raw =>
    if Descriptor.isBinding σ raw && Descriptor.isData σ raw then some raw else some found
  | some found, none => some found
  | none, some raw => some raw
  | none, none => if v.isClass then σ.inLineage (σ.classOf v) name else none
where
  /-- Whether a class keeps something else where the attributes of its objects are computed. -/
  hidesOwn (c : ClassId) : Bool :=
    match σ.inLineage c "__dict__" with
    | some (.member ..) | none => false
    | some _ => true

end MacroStubs.Attribute
