import MacroStubs.World.Call

/-! # Building worlds

The world with the root class alone, and how classes, objects and callables are put into it. A class
below the root class gets an empty registry of its own, whatever it binds to that name.
-/

namespace MacroStubs

/-- A world with its state. -/
structure Site where
  world : World
  state : State

namespace Site

/-- The attributes that the objects of a class have if those of its base lack them. -/
def ownMembers (c : ClassId) (names : List String) : Namespace :=
  names.map fun name => (name, .member c name)

/-- A function of the root class as the class keeps it. -/
def kept (n : Native) : String × Value :=
  (n.name, if n.isClassMethod then .classMethod none (.native n) else .native n)

/-- The attributes of the root class. -/
def rootSpace : Namespace :=
  [("__module__", .str Function.rootModule),
   ("__annotations__", .dict [(.str sharedField, .anonymous "GenericAlias")]),
   ("__doc__", .str "Mixin that lets callers attach methods to a class at runtime."),
   (sharedField, .dict [])] ++
  [Native.subclassed, .registry, .find, .register, .registerGlobally, .adopt, .holds, .flush,
    .ofObject].map kept ++
  ownMembers rootClass ["__dict__", "__weakref__"]

/-- The attributes of the class of macroable classes. -/
def metaSpace : Namespace :=
  [("__module__", .str Function.rootModule),
   ("__doc__", .str "Metaclass routing unknown class attributes to registered macros."),
   kept .ofClass]

/-- The name that the class of macroable classes tells. -/
def metaTitle : String := "MacroableMeta"

def classNamed (name : String) : Namespace :=
  [("__name__", .str name), ("__qualname__", .str name)]

/-- The attributes of the modules that every world has. -/
def rootModules : Table String Namespace :=
  [(reporterFamily,
    [("__name__", .str reporterFamily), ("__path__", .list []), (rootName, .cls rootClass),
      ("macroable", .moduleRef Function.rootModule)]),
   (Function.rootModule,
    [("__name__", .str Function.rootModule), (rootName, .cls rootClass),
      (metaTitle, .cls rootMetaclass)])]

/-- The world with the root class alone. -/
def empty (host : Host) : Site where
  world := { address := host.readings.address }
  state :=
    { host
      classes :=
        [(rootName, { base := objectClass, bases := [objectClass],
                      lineage := [rootClass, objectClass], metaclass := rootMetaclass }),
         (metaName, { base := .builtin "type", bases := [.builtin "type"],
                      lineage := [rootMetaclass, .builtin "type", objectClass],
                      metaclass := .builtin "type" })]
      spaces := [(rootName, rootSpace), (metaName, metaSpace)]
      traits := [(rootName, classNamed rootName), (metaName, classNamed metaTitle)]
      modules := rootModules }

/-- The members that the objects of a class have because those of its base lack them. -/
def membersOver (c : ClassId) : ClassId → Namespace
  | .defined _ => []
  | .builtin "int" => ownMembers c ["__dict__"]
  | .builtin _ => ownMembers c ["__dict__", "__weakref__"]

/-- Some functions become static or class methods by their names. -/
def asKept (name : String) (v : Value) : Value :=
  if !v.isPlainFunction then v
  else if name = "__new__" then .staticMethod none v
  else if name = "__init_subclass__" || name = "__class_getitem__" then .classMethod none v
  else v

/-- What a class keeps under its names. -/
def spaceOf (c base : ClassId) (module : String) (doc : Value)
    (attributes : List (String × Value)) : Namespace :=
  let told : Namespace := match doc with
    | .null => []
    | doc => [("__doc__", doc)]
  let space : Namespace := Table.ofList ((("__module__", .str module) :: told) ++ attributes)
  let space : Namespace := (Table.erase space "__qualname__").map fun e => (e.1, asKept e.1 e.2)
  let space := (membersOver c base).foldl putNew space
  let space := putNew space ("__doc__", .null)
  if Table.has space "__eq__" then putNew space ("__hash__", .null) else space
where
  putNew (space : Namespace) (e : String × Value) : Namespace :=
    if Table.has space e.1 then space else Table.put space e.1 e.2

/-- Tells the properties among some attributes their names. -/
def nameProperties (attributes : List (String × Value)) (σ : State) : State :=
  attributes.foldl (fun σ e =>
    match e.2 with
    | .property (some id) _ => σ.setTrait id "__name__" (.str e.1)
    | _ => σ) σ

/-- Adds a class. -/
def addClass (s : Site) (id name qualname module : String) (bases : List ClassId) (doc : Value)
    (attributes : List (String × Value)) : Site :=
  let σ := s.state
  let c := ClassId.defined id
  let bases := if bases.isEmpty then [objectClass] else bases
  let lineage := (Lineage.ofBases? c bases (bases.map σ.lineage)).getD (c :: bases)
  let base := (Layout.bestBase? σ bases).getD objectClass
  let space := spaceOf c base module doc attributes
  let qualname := ((Table.get? attributes "__qualname__").bind Value.text?).getD qualname
  let metaclass :=
    if bases.any fun b => σ.metaclass b == rootMetaclass then rootMetaclass else .builtin "type"
  let isSubclassed := match lineage.tail.findSome? fun k => σ.inClass k Native.subclassed.name with
    | some (.classMethod _ (.native _)) => true
    | _ => false
  let space := if isSubclassed then space.put ownField (.dict []) else space
  let about := (space.get? "__doc__").bind Value.text?
  let σ :=
    { σ with
      classes := σ.classes.put id { base, bases, lineage, metaclass, about }
      spaces := σ.spaces.put id space
      traits := σ.traits.put id [("__name__", .str name), ("__qualname__", .str qualname)] }
  { s with state := nameProperties attributes σ }

/-- Adds an object. -/
def addObject (s : Site) (id : String) (cls : ClassId) (attributes : List (String × Value)) : Site :=
  { s with
    state := { s.state.setSpace id (Table.ofList attributes) with
      objects := s.state.objects.put id cls } }

/-- A callable that keeps some arguments; one that keeps arguments for such a one keeps them for
what that one is made of. -/
def keep (id : Option String) (inner : Value) (arguments : List Value) (keywords : Table String Value) :
    Value :=
  match inner with
  | .partialCall _ inner first kept => .partialCall id inner (first ++ arguments)
      (Call.overlay kept keywords)
  | inner => .partialCall id inner arguments keywords

/-- What a callable made of another one takes over from it. -/
def takenOver : List String :=
  ["__module__", "__name__", "__qualname__", "__doc__", "__annotations__"]

/-- The attributes of a value among those with some names. -/
def attributesOf (s : Site) (v : Value) (names : List String) : Namespace :=
  names.filterMap fun name =>
    ((Reach.of s.world).read s.state v name).toOption.map (name, ·)

/-- Adds a function that passes its arguments on to another callable. -/
def addWrapped (s : Site) (id : String) (inner : Value) : Value × Site :=
  let f := Value.wrapped id inner
  let space := Descriptor.spaceOf s.state inner
  let traits := attributesOf s inner takenOver
  (f, { s with
    state := { s.state.setSpace id (space.put "__wrapped__" inner) with
      traits := s.state.traits.put id traits } })

/-- Adds a static or a class method made of a callable. -/
def addMethod (s : Site) (id : String) (v inner : Value) : Value × Site :=
  (v, { s with state := s.state.setSpace id (attributesOf s inner takenOver) })

/-- Adds a property. It is documented as its getter is. -/
def addProperty (s : Site) (id : String) (getter : Value) : Value × Site :=
  let doc := match getter with
    | .null => .null
    | getter => (((Reach.of s.world).read s.state getter "__doc__").toOption).getD .null
  (.property id getter, { s with state := s.state.setTrait id "__doc__" doc })

/-- An attribute as an object of its own. -/
def named (id : String) : Value → Value
  | .bound _ inner self => .bound (some id) inner self
  | v => v

def addModules (s : Site) (modules : List ModuleInfo) : Site :=
  { s with world := { s.world with modules } }

end Site
end MacroStubs
