import MacroStubs.World.Attribute

/-! # Members

The routines among the attributes of a value, by the order of their names.
-/

namespace MacroStubs.Members

variable (r : Reach) (σ : State)

/-- Functions, methods, and what only binds an object. -/
def isRoutine (v : Value) : Bool :=
  if v.isClass then false
  else
    match v with
    | .function .. | .wrapped .. | .native _ | .bound .. | .builtin _ | .memberOf .. => true
    | v => Descriptor.isBinding σ v && (σ.inLineage (σ.classOf v) "__set__").isNone

/-- Names without repetition in the order of their characters. -/
def sortedNames (names : List String) : List String :=
  (names.mergeSort fun a b => decide (a ≤ b)).eraseDups

/-- The names that a class and its ancestors hold. -/
def classNames (c : ClassId) : List String :=
  (σ.lineage c).flatMap fun k =>
    match k with
    | .builtin name => (Catalogue.space name).keys
    | .defined id => (σ.space id).keys

/-- The names of the attributes that a value has of its own. -/
def ownNames (v : Value) : Except Failure (List String) := do
  match ← r.find? σ v "__dict__" with
  | some (.dict entries) => pure (entries.filterMap fun e => e.1.text?)
  | _ => pure []

/-- The names of the attributes of a value. -/
def names (v : Value) : Except Failure (List String) := do
  match v with
  | .cls c => pure (sortedNames (classNames σ c))
  | .moduleRef _ => pure (sortedNames (← ownNames r σ v))
  | v =>
    if Descriptor.definesSpecial σ v "__dir__" then
      match ← Descriptor.special? r σ v "__dir__" with
      | some lister =>
        match ← r.value σ lister [] with
        | .list items | .tuple items => pure (sortedNames (items.filterMap Value.text?))
        | other => throw (.builtinRefused s!"'{σ.typeLabel other}' object is not iterable")
      | none => pure []
    else pure (sortedNames ((← ownNames r σ v) ++ classNames σ (σ.classOf v)))

/-- What a class or an ancestor holds under a name, if a class is what is asked. -/
def held? (source : Value) (name : String) : Option Value :=
  match source with
  | .cls c => σ.inLineage c name
  | _ => none

/-- The members under some names. A name without an attribute stands for what the class itself holds,
or is left out; any other failure to read one stops. -/
def readAll (source : Value) : List String → Except Failure (List (String × Value))
  | [] => pure []
  | name :: rest => do
    match (← r.find? σ source name).or (held? σ source name) with
    | some v => do
      let later ← readAll source rest
      pure (if isRoutine σ v then (name, v) :: later else later)
    | none => readAll source rest

/-- The routines of a source. -/
def routines (source : Value) : Except Failure (List (String × Value)) := do
  readAll r σ source (← names r σ source)

end MacroStubs.Members
