import MacroStubs.Catalogue.Callable
import MacroStubs.Catalogue.Collection
import MacroStubs.Catalogue.Function
import MacroStubs.Catalogue.Plain
import MacroStubs.Catalogue.Special
import MacroStubs.Catalogue.Text

/-! # The catalogue

The classes that every world has, with what they keep under which names. A class that the catalogue
lacks has no members of its own and no documentation.
-/

namespace MacroStubs.Catalogue

/-- The class of the mappings that are no dictionaries. -/
def mappingClass : BuiltinClass where
  name := "Mapping"
  members := [Member.docText, Member.unhashable]

def classes : List BuiltinClass :=
  [noneTypeClass, ellipsisClass, boolClass, intClass, floatClass, complexClass, objectClass,
   typeClass, moduleClass, strClass, bytesClass, bytearrayClass, listClass, tupleClass, setClass,
   frozensetClass, dictClass, mappingClass, mappingProxyClass, rangeClass, functionClass,
   methodClass, builtinFunctionClass, partialClass, staticMethodClass, classMethodClass, propertyClass,
   methodDescriptorClass, specialDescriptorClass, boundSpecialClass, classMethodDescriptorClass,
   attributeDescriptorClass, fieldDescriptorClass]

def class? (name : String) : Option BuiltinClass := classes.find? (·.name == name)

/-- The member that a class keeps under a name itself. -/
def member? (owner name : String) : Option Member :=
  (class? owner).bind fun c => c.members.find? (·.name == name)

/-- A documentation given by its lines; there is none if there are no lines. -/
def docValue : List String → Value
  | [] => .null
  | lines => .str ("\n".intercalate lines)

/-- The name of a class in messages about its objects. -/
def label (name : String) : String := ((class? name).map (·.label)).getD name

/-- The class itself and those above it. -/
def lineage (name : String) : List ClassId :=
  match (class? name).map (·.base) with
  | some "" => [.builtin name]
  | some "object" | none => [.builtin name, .builtin "object"]
  | some base => [.builtin name, .builtin base, .builtin "object"]

/-- What a class keeps for a member. -/
def raw (c : BuiltinClass) (m : Member) : Value :=
  match m.kind with
  | .docText => docValue c.doc
  | .moduleName => .str c.module
  | .unhashable => .null
  | .maker => .memberOf (.builtin c.name) m.name (.cls (.builtin c.name))
  | _ => .member (.builtin c.name) m.name

/-- What a class keeps under its names, in their order. -/
def space (name : String) : Table String Value :=
  match class? name with
  | some c => c.members.map fun m => (m.name, raw c m)
  | none => [("__doc__", .null)]

/-- What a class keeps under a name itself. -/
def find? (owner name : String) : Option Value :=
  match class? owner with
  | some c => (c.members.find? (·.name == name)).map (raw c)
  | none => if name = "__doc__" then some .null else none

/-- Whether the objects of a class can be keys. -/
def areKeys (name : String) : Bool :=
  match find? name "__hash__" with
  | some .null => false
  | _ => true

/-- The kind of a member. Classes of a world have computed attributes alone. -/
def kindOf (owner : ClassId) (name : String) : MemberKind :=
  match owner with
  | .builtin c => ((member? c name).map (·.kind)).getD .computed
  | .defined _ => .computed

/-- The parameters that a member tells, as a text. -/
def signatureOf (owner : ClassId) (name : String) : String :=
  match owner with
  | .defined _ => ""
  | .builtin c =>
    match member? c name with
    | none => ""
    | some m =>
      if m.kind = .special then ((specialMethods.lookup name).map (·.1)).getD ""
      else m.signature

/-- The documentation of a member. -/
def docOf (owner : ClassId) (name : String) : Value :=
  match owner with
  | .defined _ =>
    if name = "__dict__" then .str "dictionary for instance variables (if defined)"
    else .str "list of weak references to the object (if defined)"
  | .builtin c =>
    match member? c name with
    | none => .null
    | some m =>
      if m.kind = .special then ((specialMethods.lookup name).map fun e => .str e.2).getD .null
      else docValue m.doc

/-- The class of a member as its class keeps it. -/
def descriptorClass : MemberKind → String
  | .special => "wrapper_descriptor"
  | .method => "method_descriptor"
  | .classMethod => "classmethod_descriptor"
  | .staticMethod => "staticmethod"
  | .field => "member_descriptor"
  | _ => "getset_descriptor"

/-- The class of a member as it is reached through an object. -/
def boundClass : MemberKind → String
  | .special => "method-wrapper"
  | _ => "builtin_function_or_method"

end MacroStubs.Catalogue

namespace MacroStubs.Value

/-- The name of the class of a value that is neither a class nor an object of a world. -/
def builtinClass : Value → String
  | null => "NoneType"
  | bool _ => "bool"
  | int _ => "int"
  | float _ => "float"
  | complex .. => "complex"
  | str _ => "str"
  | bytes _ => "bytes"
  | bytearray _ => "bytearray"
  | list _ => "list"
  | tuple _ => "tuple"
  | set _ => "set"
  | frozenset _ => "frozenset"
  | dict _ => "dict"
  | mapping _ => "Mapping"
  | mappingproxy _ => "mappingproxy"
  | range .. => "range"
  | ellipsis => "ellipsis"
  | custom _ => "Custom"
  | raising _ => "Raising"
  | cyclic .list => "list"
  | cyclic .dict => "dict"
  | cyclic .tuple => "tuple"
  | cyclic .listOfDict => "list"
  | function .. => "function"
  | wrapped .. => "function"
  | native _ => "function"
  | builtin _ => "builtin_function_or_method"
  | partialCall .. => "partial"
  | staticMethod .. => "staticmethod"
  | classMethod .. => "classmethod"
  | property .. => "property"
  | bound .. => "method"
  | member owner name => Catalogue.descriptorClass (Catalogue.kindOf owner name)
  | memberOf owner name _ => Catalogue.boundClass (Catalogue.kindOf owner name)
  | cls _ => "type"
  | moduleRef _ => "module"
  | callRecord .. => "dict"
  | anonymous name => name
  | objectRef _ | fresh _ | missing => "object"

end MacroStubs.Value
