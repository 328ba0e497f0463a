import MacroStubs.Literal.ParameterText
import MacroStubs.World.Call

/-! # Signatures

The parameters that a caller of a callable passes. What is bound, and the methods that calling a
class or an object leads to, have lost the parameter that their first argument reached. A callable
that wraps another one shows the parameters of that one; a built-in one tells its own as a text.
-/

namespace MacroStubs

namespace Signature

variable (w : World) (r : Reach) (σ : State)

/-- The parameters left when the first argument is given. Extra positional ones take it and stay. -/
def dropFirst : ParameterList → Except Failure ParameterList
  | [] => throw .invalidMethodSignature
  | p :: rest =>
    match p.kind with
    | .positionalOnly | .positionalOrKeyword => pure rest
    | .extraPositional => pure (p :: rest)
    | .keywordOnly | .extraKeyword => throw .invalidMethodSignature

/-- Fails with what is said of a value by its printed form. -/
def complain {α : Type} (f : String → Failure) (v : Value) : Except Failure α := do
  throw (f (← printedText w r σ v))

/-- Whether a value has an attribute. -/
def has (v : Value) (name : String) : Except Failure Bool := do
  pure (← r.find? σ v name).isSome

def isMethod : Value → Bool
  | .bound .. => true
  | _ => false

/-- Whether two values are one object. -/
def isOne (a b : Value) : Bool :=
  match a, b with
  | .cls c, .cls d => c == d
  | a, b =>
    match a.identity?, b.identity? with
    | some i, some j => i == j
    | _, _ => false

/-- How many callables may wrap each other. -/
def maxWrappers : Nat := 1000

/-- What a value wraps in at most `n` layers. Methods, and what has a signature of its own, are not
looked into. -/
def unwrapped (first : Value) : Nat → List Value → Value → Except Failure Value
  | 0, _, _ => complain w r σ .wrapperLoop first
  | n + 1, seen, v => do
    match ← r.find? σ v "__wrapped__" with
    | none => pure v
    | some inner => do
      if (← has r σ v "__signature__") || isMethod v then pure v
      else if seen.any (isOne inner) then complain w r σ .wrapperLoop first
      else unwrapped first n (inner :: seen) inner

/-- The parameters that a text tells of a value. -/
def ofText (v : Value) (text : String) : Except Failure ParameterList := do
  match Literal.told? text.toList with
  | none => complain w r σ .signatureText v
  | some told =>
    let ps := told.parameters
    match Arguments.repeatedName? ps with
    | some name => throw (.repeatedParameter name)
    | none =>
      if told.takesObject then
        match ← r.find? σ v "__self__", ps with
        | none, p :: rest | some .null, p :: rest => pure ({ p with kind := .positionalOnly } :: rest)
        | _, ps => pure (ps.drop 1)
      else pure ps

/-- The parameters that a value tells by a text, if it tells any. Something else than a text in its
place is taken for one. -/
def told? (v : Value) : Except Failure (Option ParameterList) := do
  match ← r.find? σ v "__text_signature__" with
  | some (.str s) => if s.isEmpty then pure none else some <$> ofText w r σ v s
  | some other =>
    if (σ.payload other).isTrue then do
      let _ ← r.read σ other "split"
      throw (.bytesExpected "str")
    else pure none
  | none => pure none

/-- Whether an object says of itself that it is a class which every world has. -/
def claimsToBe (v : Value) (c : ClassId) : Except Failure Bool := do
  if Descriptor.definesSpecial σ v "__eq__" then
    match ← Descriptor.special? r σ v "__eq__" with
    | some f => do pure (σ.payload (← r.value σ f [.cls c])).isTrue
    | none => pure false
  else pure (Value.same v (.cls c))

/-- Whether a value is a special method or a function that no world defines. -/
def isNonUser (v : Value) : Bool :=
  ["wrapper_descriptor", "method-wrapper", "classmethod_descriptor",
    "builtin_function_or_method"].contains v.builtinClass

/-- Whether a value tells its parameters as a text if at all. -/
def isBuiltin (v : Value) : Except Failure Bool := do
  let cls := σ.classOf v
  if v.isClass then pure (Value.same v (.cls objectClass) || Value.same v (.cls (.builtin "type")))
  else if isNonUser v then pure true
  else if (σ.inLineage cls "__get__").isSome && (σ.inLineage cls "__set__").isNone then pure true
  else if ← claimsToBe r σ v (.builtin "type") then pure true
  else claimsToBe r σ v objectClass

/-- A method that a class or one of its ancestors defines in the world, unless it is a null. -/
def defined? (v : Value) (name : String) : Except Failure (Option Value) := do
  match ← r.find? σ v name with
  | some .null | none => pure none
  | some f => pure (if isNonUser f then none else some f)

/-- What makes or prepares the objects of a class: what the class itself defines, else what it
inherits. -/
def maker? (c : ClassId) : Except Failure (Option Value) := do
  let new ← defined? r σ (.cls c) "__new__"
  let init ← defined? r σ (.cls c) "__init__"
  if (σ.inClass c "__new__").isSome then pure new
  else if (σ.inClass c "__init__").isSome then pure init
  else pure (new.or init)

/-- The first parameters that a class of a lineage tells by a text. -/
def inherited? : List ClassId → Except Failure (Option ParameterList)
  | [] => pure none
  | c :: rest => do
    match ← told? w r σ (.cls c) with
    | some ps => pure (some ps)
    | none => inherited? rest

/-- The parameters of a class that defines nothing of its own to make its objects. -/
def ofPlainClass (c : ClassId) : Except Failure ParameterList := do
  let v := Value.cls c
  match ← inherited? w r σ (σ.lineage c).dropLast with
  | some ps => pure ps
  | none =>
    if (σ.lineage c).contains (.builtin "type") then complain w r σ .unsupportedCallable v
    else
      let plain (name : String) : Except Failure Bool := do
        pure ((← r.read σ v name) == (← r.read σ (.cls objectClass) name))
      if (← plain "__init__") && (← plain "__new__") then pure []
      else complain w r σ .noTypeSignature v

/-- The parameters of a callable that wraps no other one; `next` tells those of another callable. -/
def ofUnwrapped (next : Value → Except Failure ParameterList) (v : Value) :
    Except Failure ParameterList := do
  match ← r.find? σ v "__signature__" with
  | some .null | none => pure ()
  | some other => complain w r σ .signatureObject other
  let _ ← has r σ v "_partialmethod"
  if v.isPlainFunction then do
    pure ((← told? w r σ v).getD (Function.parameters σ v))
  else if ← isBuiltin r σ v then
    match ← told? w r σ v with
    | some ps => pure ps
    | none => complain w r σ .noBuiltinSignature v
  else
    match v with
    | .partialCall _ inner arguments keywords => do
      match Arguments.remaining? (← next inner) arguments keywords with
      | some left => pure left
      | none => complain w r σ .partialArguments v
    | .cls c => do
      match ← maker? r σ c with
      | some f => do dropFirst (← next f)
      | none => ofPlainClass w r σ c
    | v => do
      match ← defined? r σ (.cls (σ.classOf v)) "__call__" with
      | none => complain w r σ .unsupportedCallable v
      | some f =>
        match next f with
        | .ok ps => dropFirst ps
        | .error failure =>
          if failure.isValue then complain w r σ .noSignature v else throw failure

/-- The parameters of a callable that leads to others in at most `n` steps. -/
def within : Nat → Value → Except Failure ParameterList
  | 0, _ => throw .nestingTooDeep
  | n + 1, v => do
    if !σ.isCallable v then complain w r σ .notCallable v
    match v with
    | .bound _ inner _ => do dropFirst (← within n inner)
    | v => do
      match ← unwrapped w r σ v maxWrappers [v] v with
      | .bound id inner self => within n (.bound id inner self)
      | v => ofUnwrapped w r σ (within n) v

end Signature

/-- The parameters that a caller passes. -/
def signature (w : World) (r : Reach) (σ : State) (v : Value) : Except Failure ParameterList :=
  Signature.within w r σ Value.maxNesting v

end MacroStubs
