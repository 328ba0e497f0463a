import MacroStubs.Literal.ParameterText
import MacroStubs.Value.Arguments
import MacroStubs.Value.Method
import MacroStubs.Value.Operation
import MacroStubs.World.Builtin
import MacroStubs.World.Members
import MacroStubs.World.Write

/-! # Calls of members

What the members of built-in classes give when they are called on an object: those that every object
has, those of classes, those of callables, and the methods and operations of plain data.
-/

namespace MacroStubs.MemberCall

variable (w : World) (r : Reach)

/-- A call with arguments that the member does not take. -/
def refuse {α : Type} (owner name : String) : Run α :=
  throw (.builtinRefused s!"{owner}.{name}() refuses its arguments")

/-- The printed form that an object has if its class does not say otherwise. -/
def defaultText (σ : State) (v : Value) : String :=
  s!"<{σ.fullName (σ.classOf v)} object at {w.address}>"

/-- Whether arguments in excess are left to a function that the class defines. -/
def toleratesExcess (σ : State) (c : ClassId) (ours other : String) : Bool :=
  let isOwn (name : String) : Bool := match σ.inLineage c name with
    | some (.member (.builtin "object") _) | some (.memberOf (.builtin "object") _ _) => true
    | _ => false
  isOwn ours && !isOwn other

/-- An object of a class with nothing of its own. -/
def blank (c : ClassId) (excess : Bool) : Run Value := do
  let σ ← get
  if excess && !toleratesExcess σ c "__new__" "__init__" then throw (.noArguments (σ.className c))
  else pure (.fresh c)

/-- The attribute that ordinary look-up finds. -/
def generic (v : Value) (name : String) : Run Value := do
  let σ ← get
  match v with
  | .cls c =>
    match ← Run.ofExcept (Attribute.ofClass? r σ c name) with
    | some found => pure found
    | none => throw (.noClassAttribute (σ.labelOf c) name)
  | v =>
    match ← Run.ofExcept (Attribute.ofObject? r σ v name) with
    | some found => pure found
    | none => throw (.noAttribute (σ.typeLabel v) name)

/-- Takes away an attribute that a value has of its own. -/
def remove (v : Value) (name : String) : Run Unit := do
  let σ ← get
  let id? := match v with
    | .cls (.defined id) => some id
    | v => v.identity?
  match id? with
  | some id =>
    if (σ.space id).has name then set (σ.setSpace id ((σ.space id).erase name))
    else throw (.noAttribute (σ.typeLabel v) name)
  | none => throw (.noAttribute (σ.typeLabel v) name)

/-- The names of the attributes of a value, its own first, then those of its lineage. -/
def namesOf (v : Value) : Run Value := do
  let σ ← get
  let names ← match v with
    | .cls c => pure (Members.classNames σ c)
    | v => do
      let own ← Run.ofExcept (Members.ownNames r σ v)
      pure (own ++ Members.classNames σ (σ.classOf v))
  pure (.list (names.eraseDups.map .str))

/-- What a descriptor becomes when it is read for an object and its class. -/
def descriptor (v object : Value) (cls : Option Value) : Run Value := do
  let σ ← get
  let object := match object with
    | .null => none
    | object => some object
  match object, cls.getD .null with
  | none, .null => throw (.builtinRefused "__get__(None, None) is invalid")
  | object, .null =>
    Run.ofExcept (Descriptor.get r σ v object (.cls (σ.classOf (object.getD .null))))
  | object, cls => Run.ofExcept (Descriptor.get r σ v object cls)

/-- A member that every object has. -/
def ofObject (self : Value) (name : String) (arguments : List Value)
    (keywords : Table String Value) : Run Value := do
  let σ ← get
  match name, arguments, keywords with
  | "__init__", [], [] => pure .null
  | "__init__", _, _ =>
    if toleratesExcess σ (σ.classOf self) name "__new__" then pure .null
    else throw (.noArguments (σ.typeName self))
  | "__repr__", [], [] => pure (.str (defaultText w σ self))
  | "__str__", [], [] => .str <$> Run.ofExcept (printedText w r σ self)
  | "__format__", [.str ""], [] => .str <$> BuiltinCall.asText w r self
  | "__eq__", [v], [] =>
    pure (if Value.same self v then .bool true else Value.Operation.undecided)
  | "__ne__", [v], [] => do
    match ← Run.ofExcept (Descriptor.special? r σ self "__eq__") with
    | some test =>
      match ← r.call test [v] [] with
      | .anonymous "NotImplementedType" => pure Value.Operation.undecided
      | answer => do pure (.bool (!(← BuiltinCall.truth r answer)))
    | none => pure Value.Operation.undecided
  | "__lt__", [_], [] | "__le__", [_], [] | "__gt__", [_], [] | "__ge__", [_], [] =>
    pure Value.Operation.undecided
  | "__hash__", [], [] => pure (.int 0)
  | "__getattribute__", [.str attr], [] => generic r self attr
  | "__setattr__", [.str attr, v], [] => do
    Write.generic r self attr v
    pure .null
  | "__delattr__", [.str attr], [] => do
    remove self attr
    pure .null
  | "__dir__", [], [] => namesOf r self
  | "__getstate__", [], [] =>
    match Descriptor.spaceOf σ self with
    | [] => pure .null
    | space => pure (.dict (Descriptor.entriesOf space))
  | "__init_subclass__", [], [] => pure .null
  | "__subclasshook__", _, _ => pure Value.Operation.undecided
  | name, _, _ => refuse "object" name

/-- A member of the class of classes. -/
def ofType (c : ClassId) (name : String) (arguments : List Value)
    (keywords : Table String Value) : Run Value := do
  let σ ← get
  match name, arguments, keywords with
  | "__call__", arguments, keywords => r.call (.cls c) arguments keywords
  | "__repr__", [], [] => .str <$> Run.ofExcept (printedText w r σ (.cls c))
  | "mro", [], [] => pure (.list ((σ.lineage c).map .cls))
  | "__subclasses__", [], [] =>
    pure (.list ((σ.classes.filter fun e => e.2.bases.contains c).map fun e => .cls (.defined e.1)))
  | "__instancecheck__", [v], [] => pure (.bool (σ.isInstance v c))
  | "__subclasscheck__", [.cls k], [] => pure (.bool ((σ.lineage k).contains c))
  | "__prepare__", _, _ => pure (.dict [])
  | "__init__", [_], [] | "__init__", [_, _, _], [] => pure .null
  | "__getattribute__", [.str attr], [] => generic r (.cls c) attr
  | "__setattr__", [.str attr, v], [] => do
    Write.generic r (.cls c) attr v
    pure .null
  | "__delattr__", [.str attr], [] => do
    remove (.cls c) attr
    pure .null
  | "__dir__", [], [] => namesOf r (.cls c)
  | name, _, _ => refuse "type" name

/-- The arguments of a method in the order of its parameters, if it tells them, and else as they are
given. -/
def placed (owner name : String) (self : Value) (arguments : List Value)
    (keywords : Table String Value) : Run (List Value) :=
  match Literal.told? (Catalogue.signatureOf (.builtin owner) name).toList with
  | some told =>
    let object := if told.takesObject then [self] else []
    match Arguments.ofCall told.parameters (object ++ arguments) keywords with
    | .ok values => pure ((values.drop object.length).map (·.2))
    | .error _ => refuse owner name
  | none => if keywords.isEmpty then pure arguments else refuse owner name

/-- What methods of plain data need to know of a world. -/
def setting (σ : State) : Value.Method.Setting where
  classing := σ.classing
  printed := printedText w r σ

/-- A value that stands for those of a class. -/
def specimen (owner : String) : Value :=
  match owner with
  | "str" => .str ""
  | "bytes" => .bytes []
  | "bytearray" => .bytearray []
  | "dict" => .dict []
  | "float" => .float (.zero false)
  | _ => .int 0

/-- A member of plain data. -/
def ofData (owner name : String) (self : Value) (arguments : List Value)
    (keywords : Table String Value) : Run Value := do
  let σ ← get
  let plain := match self with
    | .cls _ => specimen owner
    | self => σ.payload self
  match name, arguments, keywords with
  | "__init__", arguments, keywords => do
    let _ ← BuiltinCall.convert? w r owner arguments keywords
    pure .null
  | "__repr__", [], [] => .str <$> Run.ofExcept (printedText w r σ plain)
  | "__str__", [], [] | "__format__", [.str ""], [] =>
    .str <$> BuiltinCall.asText w r (Value.Operation.unviewed plain)
  | "__hash__", [], [] =>
    if (σ.classing.areKeys (σ.classOf plain)) then
      Run.ofExcept (((plain.operate? σ.classing name []).getD (pure (.int 0))))
    else refuse owner name
  | "__getattribute__", [.str attr], [] => generic r self attr
  | "__reversed__", [], [] =>
    pure (.anonymous (match plain with
      | .dict _ | .mappingproxy _ => "dict_reversekeyiterator"
      | .list _ => "list_reverseiterator"
      | _ => "range_iterator"))
  | "__class_getitem__", [_], [] => pure (.anonymous "GenericAlias")
  | "sort", arguments, keywords => do
    if arguments.isEmpty then
      let _ ← BuiltinCall.function w r .sorted [plain] keywords
      pure .null
    else refuse owner name
  | name, arguments, keywords => do
    if name.startsWith "__" then
      match plain.operate? σ.classing name arguments, keywords with
      | some (.error (.keyMissing _)), [] => do
        throw (.keyMissing (← Run.ofExcept (printedText w r σ (arguments.headD .null))))
      | some answer, [] => do
        let v ← Run.ofExcept answer
        if changers.contains name && !Value.same v Value.Operation.undecided then
          pure (if self.identity?.isNone then v else self)
        else pure v
      | _, _ => refuse owner name
    else
      let isUpdate := owner = "dict" && name = "update"
      let arguments ← placed owner name plain arguments (if isUpdate then [] else keywords)
      match ← Run.ofExcept (plain.callMethod (setting w r σ) name arguments), self with
      | .int n, .cls (.builtin "bool") => pure (.bool (n != 0))
      | answer, _ => pure answer
where
  changers : List String :=
    ["__iadd__", "__imul__", "__iand__", "__isub__", "__ixor__", "__ior__"]

/-- The classes of callables and of what stands for one in a class. -/
def callableClasses : List String :=
  ["function", "method", "builtin_function_or_method", "partial", "staticmethod", "classmethod",
   "property", "method_descriptor", "wrapper_descriptor", "method-wrapper",
   "classmethod_descriptor", "getset_descriptor", "member_descriptor"]

/-- A member of a callable. -/
def ofCallable (owner name : String) (self : Value) (arguments : List Value)
    (keywords : Table String Value) : Run Value := do
  match name, self, arguments, keywords with
  | "__call__", self, arguments, keywords => r.call self arguments keywords
  | "__get__", self, [object], [] => descriptor r self object none
  | "__get__", self, [object, cls], [] => descriptor r self object (some cls)
  | "__repr__", self, [], [] => .str <$> Run.ofExcept (printedText w r (← get) self)
  | "getter", .property .., [f], [] => pure (.property none f)
  | "setter", .property _ f, [_], [] | "deleter", .property _ f, [_], [] => pure (.property none f)
  | "__set_name__", .property .., [_, _], [] => pure .null
  | "__set__", .property .., [object, v], [] => do
    Write.through r self object v
    pure .null
  | "__delete__", .property id _, [object], [] => do
    let σ ← get
    throw (.noAccessor "deleter" ((id.bind fun id => σ.trait? id "__name__").bind Value.text?)
      (σ.qualname (σ.classOf object)))
  | "__init__", .staticMethod .., [_], [] | "__init__", .classMethod .., [_], []
  | "__init__", .property .., _, [] => pure .null
  | "__class_getitem__", _, [_], [] => pure (.anonymous "GenericAlias")
  | "__getattribute__", .bound .., [.str attr], [] => Run.read fun σ => r.read σ self attr
  | name, self, arguments, keywords =>
    if objectMembers.contains name then ofObject w r self name arguments keywords
    else refuse owner name
where
  objectMembers : List String :=
    ["__eq__", "__ne__", "__lt__", "__le__", "__gt__", "__ge__", "__hash__", "__getattribute__",
     "__setattr__", "__delattr__"]

/-- Whether the objects of a class are made by the built-in class that stands nearest above it and
makes its own. -/
def isMadeBy (σ : State) (c : ClassId) (made : String) : Bool :=
  let makers := (σ.lineage c).filter fun k => match k with
    | .builtin name => name != "object"
    | .defined _ => false
  match makers with
  | [] => made = "object"
  | k :: _ => k = .builtin made

/-- Makes an object of a class as a built-in class makes its objects. -/
def make (made : String) (arguments : List Value) (keywords : Table String Value) :
    Run Value := do
  let σ ← get
  match arguments with
  | .cls c :: rest =>
    if !(σ.lineage c).contains (.builtin made) then
      BuiltinCall.refuse
        s!"{made}.__new__({σ.className c}): {σ.className c} is not a subtype of {made}"
    else if !isMadeBy σ c made then
      BuiltinCall.refuse s!"{made}.__new__({σ.className c}) is not safe"
    else if made = "object" then blank c (!(rest.isEmpty && keywords.isEmpty))
    else if c = .builtin made then
      match ← BuiltinCall.convert? w r made rest keywords with
      | some v => pure v
      | none => refuse made "__new__"
    else do
      if made = "int" then
        let _ ← BuiltinCall.convert? w r made rest keywords
      blank c false
  | v :: _ => BuiltinCall.refuse s!"{made}.__new__(X): X is not a type object ({σ.typeLabel v})"
  | [] => BuiltinCall.refuse s!"{made}.__new__(): not enough arguments"

/-- Calls a member with its object. -/
def onObject (owner : ClassId) (name : String) (self : Value) (arguments : List Value)
    (keywords : Table String Value) : Run Value :=
  match owner, name, self with
  | .builtin _, "__new__", .cls (.builtin made) => make w r made arguments keywords
  | .builtin "type", name, .cls c => ofType w r c name arguments keywords
  | .builtin "object", name, self => ofObject w r self name arguments keywords
  | .builtin "dict", "fromkeys", .cls (.defined id) => do
    let _ ← ofData w r "dict" name self arguments keywords
    blank (.defined id) false
  | .builtin owner, name, self =>
    if callableClasses.contains owner then ofCallable w r owner name self arguments keywords
    else ofData w r owner name self arguments keywords
  | .defined _, name, _ => refuse "object" name

/-- Calls a member as its class keeps it: the first argument is the object. -/
def unbound (owner : ClassId) (name : String) (arguments : List Value)
    (keywords : Table String Value) : Run Value := do
  let σ ← get
  match Catalogue.kindOf owner name, arguments with
  | .staticMethod, arguments => onObject w r owner name (.cls owner) arguments keywords
  | .special, self :: rest | .method, self :: rest =>
    if σ.isInstance self owner then onObject w r owner name self rest keywords
    else throw (.memberMismatch name (σ.labelOf owner) (σ.typeLabel self))
  | .classMethod, .cls c :: rest => onObject w r owner name (.cls c) rest keywords
  | .computed, _ | .field, _ => throw (.uncallable (σ.typeLabel (.member owner name)))
  | _, _ =>
    throw (.builtinRefused s!"unbound method {σ.labelOf owner}.{name}() needs an argument")

end MacroStubs.MemberCall
