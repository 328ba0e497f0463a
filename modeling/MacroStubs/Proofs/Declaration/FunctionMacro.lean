import MacroStubs.Proofs.Declaration.Method
import MacroStubs.Proofs.Macroable.Registry
import MacroStubs.Proofs.Signature.Nesting
import MacroStubs.World.Build

/-! # Functions as macros

The declaration of a function and what reading it through an object gives decide alike whether the
object is bound, and leave the same parameters to a caller.
-/

namespace MacroStubs

variable {w : World} {σ : State} {f obj : Value} {name id : String}
variable {entries : List (Value × Value)} {ps qs : ParameterList} {m : Method}

/-- Whether the method is what the macro is declared as in the present state. -/
def Entry.Declares (w : World) (σ : State) (e : Entry) (m : Method) : Prop :=
  (e.reflect w (Reach.of w) σ).method? = .ok m

/-- Writing the declaration writes the method, with what there is to warn of. -/
theorem Entry.Declares.write {e : Entry} (h : e.Declares w σ m) (labels : Labels) (owner : String)
    (s : Sheet) :
    Declaration.write labels owner (e.reflect w (Reach.of w) σ) s =
      m.write labels (s.note ((e.reflect w (Reach.of w) σ).warnings owner)) := by
  rw [Reflection.write_eq, h]

theorem dropReceiver_of_dropFirst (h : Signature.dropFirst qs = .ok ps) :
    Macro.dropReceiver qs = ps := by
  cases qs with
  | nil => cases h
  | cons p rest =>
    rw [Signature.dropFirst] at h
    rw [Macro.dropReceiver]
    cases hk : p.kind <;> rw [hk] at h <;> cases h <;> rfl

theorem pair?_of_plain (hf : f.isPlainFunction = true) : f.pair? = none := by
  cases f <;> first | rfl | cases hf

/-- A name that reads as a macro through an object: neither the object nor its class has an
attribute of that name, and the first class of the lineage with a macro of that name has this one.
The class finds macros, and answers for unknown attributes of its objects, as the root class does.
-/
structure IsMacroOf (σ : State) (obj : Value) (name : String) (f : Value) (id : String) : Prop where
  classOf : σ.classOf obj = .defined id
  isObject : obj.isClass = false
  finds : σ.inLineage (.defined id) Native.find.name = some (.classMethod none (.native .find))
  answers : σ.inLineage (.defined id) Native.ofObject.name = some (.native .ofObject)
  registered : ∃ before c after, σ.lineage (.defined id) = before ++ c :: after ∧
    (∀ k ∈ before, Registry.Lacks σ name k) ∧ Registry.Keeps σ name f c
  reader : Descriptor.definesSpecial σ obj "__getattribute__" = false
  notHeld : σ.inLineage (.defined id) name = none
  notOwn : (Descriptor.spaceOf σ obj).get? name = none
  notReserved : Text.beginsWith name "__" = false

/-- A name that means a macro through an object, be it one of a class of the lineage or one of all.
-/
structure MeansMacro (σ : State) (obj : Value) (name : String) (f : Value) (id : String) :
    Prop where
  classOf : σ.classOf obj = .defined id
  isObject : obj.isClass = false
  finds : σ.inLineage (.defined id) Native.find.name = some (.classMethod none (.native .find))
  answers : σ.inLineage (.defined id) Native.ofObject.name = some (.native .ofObject)
  found : Registry.find? σ (.defined id) (.str name) = .ok (some f)
  reader : Descriptor.definesSpecial σ obj "__getattribute__" = false
  notHeld : σ.inLineage (.defined id) name = none
  notOwn : (Descriptor.spaceOf σ obj).get? name = none
  notReserved : Text.beginsWith name "__" = false

namespace MeansMacro

theorem viaMacro_eq (h : MeansMacro σ obj name f id) (r : Reach) :
    Attribute.viaMacro r σ obj (.defined id) name = .ok (Attribute.ofMacro σ obj f) := by
  have hs : Attribute.sought r σ (.defined id) (.str name) = .ok (some f) := by
    rw [Attribute.sought, h.finds]
    exact h.found
  rw [Attribute.viaMacro, h.notReserved, if_neg Bool.false_ne_true, hs]
  rfl

/-- Ordinary look-up fails and the hook of the root class answers. -/
theorem step_eq (h : MeansMacro σ obj name f id) (r : Reach) :
    Attribute.step w r σ obj name = .ok (Attribute.ofMacro σ obj f) := by
  have hhook : σ.inLineage (σ.classOf obj) "__getattr__" = some (.native .ofObject) := by
    rw [h.classOf]
    exact h.answers
  have ha : (Failure.noAttribute (σ.typeLabel obj) name).isAttribute = true := rfl
  rw [Attribute.step,
    Attribute.ordinary_of_missing h.isObject h.classOf h.reader h.notHeld h.notOwn]
  dsimp only
  rw [if_pos ha, Attribute.viaHook.eq_2 _ _ _ _ _ hhook, h.classOf]
  exact h.viaMacro_eq r

end MeansMacro

theorem IsMacroOf.meansMacro (h : IsMacroOf σ obj name f id) : MeansMacro σ obj name f id where
  classOf := h.classOf
  isObject := h.isObject
  finds := h.finds
  answers := h.answers
  found := by
    obtain ⟨before, c, after, hl, hb, hc⟩ := h.registered
    rw [Registry.find?, hl, Registry.firstHolding_of_first hb hc]
    rfl
  reader := h.reader
  notHeld := h.notHeld
  notOwn := h.notOwn
  notReserved := h.notReserved

theorem Attribute.readThrough_of_value {r : Reach} {v : Value}
    (h : step w r σ obj name = .ok (.value v)) :
    readThrough w r σ obj name = .ok v := by
  rw [readThrough, readIn, h]
  rfl

/-- A marked function is bound to the object, any other one is left as it is. -/
theorem ofMacro_of_plain (hf : f.isPlainFunction = true) (hclass : obj.isClass = false) :
    Attribute.ofMacro σ obj f = .value
      (if isMarked (shownDocumentation (Function.documentation σ f)) then .bound none f obj
        else f) := by
  rw [Attribute.ofMacro, hf, hclass, pair?_of_plain hf]
  cases isMarked (shownDocumentation (Function.documentation σ f)) <;> rfl

/-- The documentation that decides about a function is the one that it shows. -/
theorem docstring_of_plain (hf : f.isPlainFunction = true) :
    (Macro.ofValue σ f).docstring (Reach.of w) σ =
      .ok (shownDocumentation (Function.documentation σ f)) := by
  rw [Macro.ofValue, pair?_of_plain hf, Macro.docstring, cleanedDocumentation, Reach.of_eq,
    Function.read_documentation hf 989]
  rfl

/-- Reading a marked function through an object binds it to the object, and no other one. -/
theorem MeansMacro.read_plain (h : MeansMacro σ obj name f id) (hf : f.isPlainFunction = true) :
    (Reach.of w).read σ obj name = .ok
      (if isMarked (shownDocumentation (Function.documentation σ f)) then .bound none f obj
        else f) := by
  rw [Reach.of_eq, Reach.read_within]
  refine Attribute.readThrough_of_value ?_
  rw [h.step_eq, ofMacro_of_plain hf h.isObject]

theorem IsMacroOf.read_eq (h : IsMacroOf σ obj name f id) (hf : f.isPlainFunction = true) :
    (Reach.of w).read σ obj name = .ok
      (if isMarked (shownDocumentation (Function.documentation σ f)) then .bound none f obj
        else f) :=
  h.meansMacro.read_plain hf

namespace Basket

/-- A function that takes the basket it is called on and a count. -/
def top : Value :=
  .function "top" "top" [{ name := "self" }, { name := "count", default := some (.int 1) }]
    (.str "The first items.\n\n@instantiated") (.returns .null)

def site : Site :=
  ((Site.empty default).addClass "Basket" "Basket" "Basket" "app" [rootClass] .null []).addObject
    "basket" (.defined "Basket") []

/-- The class of the basket has registered the function. -/
def state : State :=
  site.state.putInClass (.defined "Basket") ownField (.dict (Table.put [] (.str "top") top))

theorem isMacroOf_top : IsMacroOf state (.objectRef "basket") "top" top "Basket" where
  classOf := rfl
  isObject := rfl
  finds := rfl
  answers := rfl
  registered := ⟨[], .defined "Basket", [rootClass, objectClass], rfl, by simp, _, rfl,
    Table.get?_put_str⟩
  reader := rfl
  notHeld := rfl
  notOwn := rfl
  notReserved := by decide +kernel

end Basket

end MacroStubs
