import MacroStubs.Proofs.Outcome
import MacroStubs.Stub.Declaration

/-! # Declared methods

The declaration of a macro as data: everything that its text depends on. What a caller passes are
all parameters of a static method and all but the first of a method of an object.
-/

namespace MacroStubs

structure Method where
  name : String
  parameters : ParameterList
  docstring : Option String
  static : Bool

namespace Method

def write (labels : Labels) (m : Method) : Writing Unit :=
  Writing.declare labels m.name m.parameters m.docstring m.static

/-- The parameters that a caller passes. -/
def callerParameters (m : Method) : ParameterList :=
  if m.static then m.parameters else m.parameters.drop 1

end Method

namespace Reflection

variable (r : Reflection)

/-- The parameters that are declared if the macro takes no receiver. -/
def parametersOrAny : Except Failure ParameterList :=
  match r.parameters with
  | .ok ps => pure ps
  | .error f => if f.isValueOrType then pure Declaration.anyParameters else throw f

/-- The declaration that a reflected macro gets. -/
def method? : Except Failure Method := do
  let ps ← r.parametersOrAny
  let doc ← r.docstring
  pure
    { name := r.name
      parameters := Declaration.declared r.includesReceiver (isMarked doc) ps
      docstring := doc
      static := !isMarked doc }

/-- What is reported about a macro whose parameters cannot be told. -/
def warnings (owner : String) : List Record :=
  match r.parameters with
  | .ok _ => []
  | .error f => if f.isValueOrType then [Declaration.unreadable owner r.name f] else []

variable {r}

/-- Writing the declaration of a macro is writing that method, behind the warnings. -/
theorem write_eq (labels : Labels) (owner : String) (r : Reflection) (s : Sheet) :
    Declaration.write labels owner r s =
      match r.method? with
      | .ok m => m.write labels (s.note (r.warnings owner))
      | .error f => (.error f, s.note (r.warnings owner)) := by
  have hn : s.note [] = s := by simp [Sheet.note]
  rw [method?, parametersOrAny, warnings, Declaration.write, Declaration.parametersOf]
  cases r.parameters with
  | ok ps =>
    rw [hn]
    cases r.docstring <;> rfl
  | error f =>
    dsimp only
    split
    · cases r.docstring <;> rfl
    · rw [hn]
      rfl

theorem method?_eq_ok {m : Method} :
    r.method? = .ok m ↔ ∃ ps doc, r.parametersOrAny = .ok ps ∧ r.docstring = .ok doc ∧
      m = { name := r.name
            parameters := Declaration.declared r.includesReceiver (isMarked doc) ps
            docstring := doc
            static := !isMarked doc } := by
  rw [method?]
  constructor
  · intro h
    obtain ⟨ps, hp, h⟩ := bind_eq_ok.mp h
    obtain ⟨doc, hd, h⟩ := bind_eq_ok.mp h
    exact ⟨ps, doc, hp, hd, (pure_eq_ok.mp h).symm⟩
  · rintro ⟨ps, doc, hp, hd, rfl⟩
    exact bind_eq_ok.mpr ⟨ps, hp, bind_eq_ok.mpr ⟨doc, hd, rfl⟩⟩

/-- The parameters are those of the macro, or any if it has none to tell. -/
theorem parametersOrAny_eq_ok {ps : ParameterList} :
    r.parametersOrAny = .ok ps ↔ r.parameters = .ok ps ∨
      ∃ f, r.parameters = .error f ∧ f.isValueOrType = true ∧ ps = Declaration.anyParameters := by
  rw [parametersOrAny]
  cases r.parameters with
  | ok qs => simp [pure, Except.pure]
  | error f =>
    cases hf : f.isValueOrType with
    | true => simp [pure, Except.pure, hf, @eq_comm _ ps]
    | false => simp [hf, throw, throwThe, MonadExceptOf.throw]

theorem parametersOrAny_of_ok {ps : ParameterList} (h : r.parameters = .ok ps) :
    r.parametersOrAny = .ok ps := by
  rw [parametersOrAny, h]
  rfl

end Reflection

namespace Declaration

/-- Whether a receiver stands first or is put there, it is the one parameter that a caller leaves
out. -/
theorem drop_declared_callable (ps : ParameterList) :
    (declared true true ps).drop 1 = Macro.dropReceiver ps := by
  cases ps with
  | nil => rfl
  | cons p rest =>
    cases hp : p.kind.isPositional <;>
      simp [declared, startsWithReceiver, Macro.dropReceiver, hp]

end Declaration

theorem Method.callerParameters_callable (name : String) (doc : Option String)
    (ps : ParameterList) :
    callerParameters
      { name
        parameters := Declaration.declared true (isMarked doc) ps
        docstring := doc
        static := !isMarked doc } =
      if isMarked doc then Macro.dropReceiver ps else ps := by
  rw [callerParameters]
  cases isMarked doc with
  | true => exact Declaration.drop_declared_callable ps
  | false => rfl

/-- A method that is called through its target gets a receiver that it does not take. -/
theorem Method.callerParameters_method (name : String) (doc : Option String) (ps : ParameterList) :
    callerParameters
      { name
        parameters := Declaration.declared false (isMarked doc) ps
        docstring := doc
        static := !isMarked doc } = ps := by
  rw [callerParameters]
  cases isMarked doc <;> rfl

end MacroStubs
