import MacroStubs.World.Function
import MacroStubs.World.Reach

/-! # Descriptors

What an attribute that a class holds becomes when it is read through an object or through the class:
a function becomes a method, a property is evaluated, a member of a built-in class is applied.
-/

namespace MacroStubs.Descriptor

variable (r : Reach) (σ : State)

/-- Whether an attribute is something else when it is read. -/
def isBinding (raw : Value) : Bool := (σ.inLineage (σ.classOf raw) "__get__").isSome

/-- Whether an attribute of a class takes precedence over that of the object. -/
def isData (raw : Value) : Bool :=
  let cls := σ.classOf raw
  (σ.inLineage cls "__set__").isSome || (σ.inLineage cls "__delete__").isSome

/-- The number that is the real or imaginary part of a number. -/
def numberPart (name : String) : Value → Value
  | .float x => .float (if name = "real" then x else .zero false)
  | .complex re im => .float (if name = "real" then re else im)
  | v =>
    .int (match name with
      | "imag" => 0
      | "denominator" => 1
      | _ => v.int?.getD 0)

/-- The keys of a namespace with their values. -/
def entriesOf (space : Namespace) : List (Value × Value) := space.map fun e => (.str e.1, e.2)

/-- The attributes of a value that has some of its own. -/
def spaceOf (v : Value) : Namespace :=
  match v with
  | .moduleRef name => (σ.modules.get? name).getD []
  | v => ((v.identity?).map σ.space).getD []

/-- The parameters of a documentation that tells them: the part from its first bracket on, if the
documentation begins with the name of its class and the part ends as such parts do. -/
def toldParameters? (name doc : String) : Option String :=
  let bare := ((name.splitOn ".").getLast?).getD name
  let rest := doc.toList.drop bare.length
  if bare.toList.isPrefixOf doc.toList && rest.head? = some '(' then
    (upTo rest).map String.ofList
  else none
where
  upTo : List Char → Option (List Char)
    | [] => none
    | c :: rest =>
      if (")\n--\n\n".toList).isPrefixOf (c :: rest) then some [')']
      else if c = '\n' && rest.head? = some '\n' then none
      else (upTo rest).map (c :: ·)

/-- The parameters that making an object of a class takes, as a text. -/
def classSignature : ClassId → String
  | .builtin name => ((Catalogue.class? name).map (·.signature)).getD ""
  | .defined id =>
    ((((σ.classes.get? id).bind (·.about)).bind (toldParameters? (σ.className (.defined id))))).getD ""

/-- A text that is not there if it is empty. -/
def presentText (s : String) : Value := if s.isEmpty then .null else .str s

/-- What a class has at a fixed name. -/
def ofClass (c : ClassId) (name : String) : Except Failure Value :=
  match name with
  | "__name__" => pure (.str (σ.className c))
  | "__qualname__" => pure (.str (σ.qualname c))
  | "__module__" =>
    match σ.classModule c with
    | some v => pure v
    | none => throw (.unknownName "__module__")
  | "__doc__" =>
    match c with
    | .builtin owner => pure (Catalogue.docValue (((Catalogue.class? owner).map (·.doc)).getD []))
    | .defined id => pure (((σ.space id).get? "__doc__").getD .null)
  | "__dict__" =>
    match c with
    | .builtin owner => pure (.mappingproxy (entriesOf (Catalogue.space owner)))
    | .defined id => pure (.mappingproxy (entriesOf (σ.space id)))
  | "__bases__" =>
    match c with
    | .builtin _ => pure (.tuple (((σ.lineage c).drop 1).take 1 |>.map .cls))
    | .defined id => pure (.tuple ((((σ.classes.get? id).map (·.bases)).getD []).map .cls))
  | "__base__" =>
    match c with
    | .builtin _ => pure ((((σ.lineage c)[1]?).map .cls).getD .null)
    | .defined id => pure (.cls (((σ.classes.get? id).map (·.base)).getD objectClass))
  | "__mro__" => pure (.tuple ((σ.lineage c).map .cls))
  | "__text_signature__" => pure (presentText (classSignature σ c))
  | "__annotations__" =>
    match c with
    | .builtin owner => throw (.noClassAttribute (Catalogue.label owner) name)
    | .defined id => pure (((σ.space id).get? name).getD (.dict []))
  | "__abstractmethods__" =>
    match (match c with
      | .builtin _ => none
      | .defined id => (σ.space id).get? name) with
    | some v => pure v
    | none => throw (.unknownName name)
  | _ => pure (.int 0)

/-- What a member of a class has at a fixed name. -/
def ofMember (owner : ClassId) (member : String) (self : Option Value) (name : String) : Value :=
  let qualname := σ.qualname owner ++ "." ++ member
  match name with
  | "__name__" => .str member
  | "__qualname__" =>
    match self with
    | some v =>
      match Catalogue.kindOf owner member, v with
      | .special, _ => .str qualname
      | _, .cls c => .str (σ.qualname c ++ "." ++ member)
      | _, v => .str (σ.qualname (σ.classOf v) ++ "." ++ member)
    | none => .str qualname
  | "__doc__" => Catalogue.docOf owner member
  | "__objclass__" => .cls owner
  | "__text_signature__" => presentText (Catalogue.signatureOf owner member)
  | "__self__" => self.getD .null
  | _ => .null

/-- What a value has at a fixed name that its built-in class computes. -/
def fixed (v : Value) (name : String) : Except Failure Value :=
  match v with
  | .cls c => ofClass σ c name
  | .function .. | .wrapped .. | .native _ =>
    if name = "__dict__" then pure (.dict (entriesOf (spaceOf σ v)))
    else pure (Function.trait σ v name)
  | .bound _ inner self =>
    match name with
    | "__func__" => pure inner
    | "__self__" => pure self
    | _ => r.read σ inner name
  | .builtin b =>
    match name with
    | "__name__" | "__qualname__" => pure (.str b.name)
    | "__doc__" => pure (Catalogue.docValue b.doc)
    | "__module__" => pure (.str "builtins")
    | "__text_signature__" => pure (presentText b.signature)
    | "__self__" => pure (.moduleRef "builtins")
    | _ => pure .null
  | .member owner member => pure (ofMember σ owner member none name)
  | .memberOf owner member self => pure (ofMember σ owner member (some self) name)
  | .partialCall _ inner arguments keywords =>
    match name with
    | "func" => pure inner
    | "args" => pure (.tuple arguments)
    | "keywords" => pure (.dict (entriesOf keywords))
    | _ => pure (.dict (entriesOf (spaceOf σ v)))
  | .staticMethod _ inner | .classMethod _ inner =>
    match name with
    | "__func__" | "__wrapped__" => pure inner
    | "__isabstractmethod__" => pure (.bool false)
    | _ => pure (.dict (entriesOf (spaceOf σ v)))
  | .property id getter =>
    match name with
    | "fget" => pure getter
    | "__doc__" => pure ((id.bind fun id => σ.trait? id "__doc__").getD .null)
    | "__isabstractmethod__" => pure (.bool false)
    | _ => pure .null
  | .range start stop step =>
    pure (.int (if name = "start" then start else if name = "stop" then stop else step))
  | .moduleRef _ => pure (.dict (entriesOf (spaceOf σ v)))
  | v => pure (numberPart name (σ.payload v))

/-- What an object has at a fixed name that a class of its lineage computes. -/
def computed (owner : ClassId) (name : String) (v : Value) : Except Failure Value :=
  match owner, name with
  | .builtin "object", "__class__" => pure (.cls (σ.classOf v))
  | .defined _, "__dict__" => pure (.dict (entriesOf (spaceOf σ v)))
  | .defined _, _ => pure .null
  | _, _ => fixed r σ v name

/-- The value of a member through an object. -/
def throughObject (owner : ClassId) (name : String) (v : Value) : Except Failure Value :=
  if σ.isInstance v owner then
    match Catalogue.kindOf owner name with
    | .special | .method => pure (.memberOf owner name v)
    | _ => computed r σ owner name v
  else throw (.memberMismatch name (σ.labelOf owner) (σ.typeLabel v))

/-- What an attribute of a class is when it is read through an object, or through the class alone. -/
def get (raw : Value) (object : Option Value) (cls : Value) : Except Failure Value :=
  match raw with
  | .staticMethod _ inner => pure inner
  | .classMethod _ inner => if isBinding σ inner then get inner (some cls) cls
      else pure (.bound none inner cls)
  | .function .. | .wrapped .. | .native _ =>
    match object with
    | some v => pure (.bound none raw v)
    | none => pure raw
  | .property id getter =>
    match object, getter with
    | none, _ => pure raw
    | some v, .null =>
      throw (.noAccessor "getter" ((id.bind fun id => σ.trait? id "__name__").bind Value.text?)
        (σ.qualname (σ.classOf v)))
    | some v, getter => r.value σ getter [v]
  | .member owner name =>
    match Catalogue.kindOf owner name, object with
    | .classMethod, _ => pure (.memberOf owner name cls)
    | .staticMethod, _ => pure (.memberOf owner name (.cls owner))
    | _, none => pure raw
    | _, some v => throughObject r σ owner name v
  | .objectRef _ | .fresh _ =>
    match σ.inLineage (σ.classOf raw) "__get__" with
    | some getter => r.value σ getter [raw, object.getD .null, cls]
    | none => pure raw
  | v => pure v

/-- The special method that the class of a value has, as it is called on the value. -/
def special? (v : Value) (name : String) : Except Failure (Option Value) :=
  match σ.inLineage (σ.classOf v) name with
  | some raw => some <$> get r σ raw (some v) (.cls (σ.classOf v))
  | none => pure none

/-- Whether a value is an object whose class, or one above it in the world, defines a special
method itself. -/
def definesSpecial (v : Value) (name : String) : Bool :=
  match σ.inLineage (σ.classOf v) name with
  | some (.member ..) | none => false
  | some _ => true

end MacroStubs.Descriptor
