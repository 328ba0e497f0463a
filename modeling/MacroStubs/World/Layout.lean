import MacroStubs.World.Basic

/-! # Layouts

How the objects of classes are built, which decides what class may stand in the place of another one,
and the lineages of classes whose bases change.
-/

namespace MacroStubs.Layout

variable (σ : State)

def isDefined : ClassId → Bool
  | .defined _ => true
  | .builtin _ => false

/-- The built-in class whose objects those of a class extend. -/
def solid (c : ClassId) : ClassId := ((σ.lineage c).find? (!isDefined ·)).getD objectClass

/-- Whether the objects of a class extend those of another one. -/
def extendsObjects (c other : ClassId) : Bool := (σ.lineage (solid σ c)).contains (solid σ other)

/-- The base whose objects extend those of all the others, the first of several. None if the objects of
two bases extend different ones. -/
def bestBase? : List ClassId → Option ClassId
  | [] => some objectClass
  | first :: rest => rest.foldlM (fun best c =>
      if extendsObjects σ best c then some best
      else if extendsObjects σ c best then some c
      else none) first

/-- The base of a class by its objects. -/
def baseOf : ClassId → ClassId
  | .builtin name => ((σ.lineage (.builtin name))[1]?).getD objectClass
  | .defined id => ((σ.classes.get? id).map (·.base)).getD objectClass

/-- The furthest class above a class whose objects are built like its own. -/
def root : Nat → ClassId → ClassId
  | 0, c => c
  | n + 1, c =>
    if isDefined c && (isDefined (baseOf σ c) || baseOf σ c == .builtin "type") then root n (baseOf σ c)
    else c

/-- Whether the objects of a class can hold others. -/
def canHold : ClassId → Bool
  | .defined _ => true
  | .builtin name => !(["object", "int", "bool", "float", "complex", "str", "bytes"].contains name)

/-- What keeps a class from standing in the place of another one at an attribute. -/
def fault? (field : String) (new old : ClassId) : Option Failure :=
  let differs (what : String) : Failure :=
    .builtinRefused
      s!"{field} assignment: '{σ.labelOf new}' {what} differs from '{σ.labelOf old}'"
  if canHold new != canHold old then some (differs "deallocator")
  else
    let new := root σ (σ.lineage new).length new
    let old := root σ (σ.lineage old).length old
    if new == old || (isDefined new && isDefined old && baseOf σ new == baseOf σ old) then none
    else some (differs "object layout")

/-- The classes with their lineages found anew, once. -/
def relined : Option (Table String ClassInfo) :=
  σ.classes.mapM fun (id, info) =>
    (Lineage.ofBases? (.defined id) info.bases (info.bases.map σ.lineage)).map fun lineage =>
      (id, { info with lineage })

/-- Finds all lineages anew: as often as there are classes, since each may depend on others. -/
def settle : Nat → State → Option State
  | 0, σ => some σ
  | n + 1, σ => (relined σ).bind fun classes => settle n { σ with classes }

def inconsistent (bases : List ClassId) : Failure :=
  .builtinRefused ("Cannot create a consistent method resolution\norder (MRO) for bases " ++
    ", ".intercalate (bases.map σ.className))

/-- Gives a class other bases. -/
def withBases (id : String) (bases : List ClassId) : Except Failure State := do
  let c := ClassId.defined id
  if bases.any fun b => (σ.lineage b).contains c then
    throw (.builtinRefused "a __bases__ item causes an inheritance cycle")
  match bestBase? σ bases with
  | none => throw (.builtinRefused "multiple bases have instance lay-out conflict")
  | some base =>
    match fault? σ "__bases__" base (baseOf σ c), σ.classes.get? id with
    | some f, _ => throw f
    | none, none => pure σ
    | none, some info =>
      match settle σ.classes.length
        { σ with classes := σ.classes.put id { info with base, bases } } with
      | some σ => pure σ
      | none => throw (inconsistent σ bases)

end MacroStubs.Layout
