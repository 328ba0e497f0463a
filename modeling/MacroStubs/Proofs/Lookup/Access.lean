import MacroStubs.Proofs.Declaration.FunctionMacro
import MacroStubs.Proofs.Macroable.Meaning

/-! # Access through classes and objects

A name that ordinary look-up does not find is left to one hook where it is read on a class, to another
one where it is read on an object. Both seek the name on the class, so they differ where a macro takes
the object that it is called on, and there alone.
-/

namespace MacroStubs

variable {w : World} {r : Reach} {σ : State} {c : ClassId} {v v' obj entry : Value}
variable {name other : String} {found : Option Value} {classes : List ClassId}

/-- A class that leaves unknown names to the root class, and its own to the class of classes. -/
structure Answers (σ : State) (c : ClassId) : Prop extends Inherits σ c where
  ofObject : σ.inLineage c Native.ofObject.name = some (.native .ofObject)
  ofClass : σ.inLineage rootMetaclass Native.ofClass.name = some (.native .ofClass)

/-- A class or an object of it: values whose unknown names are sought on the class. -/
inductive Seeks (σ : State) (c : ClassId) : Value → Prop
  | cls : Seeks σ c (.cls c)
  | object {v : Value} (hv : v.isClass = false) (hc : σ.classOf v = c) : Seeks σ c v

/-- A name that ordinary look-up does not find on a value. -/
def IsUnknown (w : World) (r : Reach) (σ : State) (v : Value) (name : String) : Prop :=
  ∃ f, Attribute.ordinary w r σ v name = .error f ∧ f.isAttribute = true

/-- A plain function with the mark of macros that take the object they are called on. -/
def IsMarked (σ : State) (entry : Value) : Prop :=
  entry.isPlainFunction = true ∧
    isMarked (shownDocumentation (Function.documentation σ entry)) = true

/-- Ordinary look-up finds nothing on a class if neither the class nor the one above it has it. -/
theorem IsUnknown.of_class (hraw : σ.inLineage c name = none)
    (habove : σ.inLineage (σ.metaclass c) name = none) : IsUnknown w r σ (.cls c) name := by
  have ho : Attribute.ofClass? r σ c name = .ok none := by
    rw [Attribute.ofClass?, habove, hraw]
    rfl
  refine ⟨.noClassAttribute (σ.labelOf c) name, ?_, rfl⟩
  rw [Attribute.ordinary, ho]
  rfl

/-- Ordinary look-up finds nothing on an object if neither the object nor its class has it. -/
theorem IsUnknown.of_object {id : String} (hv : obj.isClass = false)
    (hc : σ.classOf obj = .defined id)
    (hreader : Descriptor.definesSpecial σ obj "__getattribute__" = false)
    (hraw : σ.inLineage (.defined id) name = none)
    (hown : (Descriptor.spaceOf σ obj).get? name = none) : IsUnknown w r σ obj name :=
  ⟨_, Attribute.ordinary_of_missing hv hc hreader hraw hown, rfl⟩

namespace Attribute

/-- Reading depends on the first step alone. -/
theorem readThrough_congr (h : step w r σ v name = step w r σ v' other) :
    readThrough w r σ v name = readThrough w r σ v' other := by
  rw [readThrough, readThrough, readIn, readIn, h]

theorem readThrough_of_error {f : Failure} (h : step w r σ v name = .error f) :
    readThrough w r σ v name = .error f := by
  rw [readThrough, readIn, h]
  rfl

theorem ofMacro_of_marked (hm : IsMarked σ entry) (hv : v.isClass = false) :
    ofMacro σ v entry = .value (.bound none entry v) := by
  rw [ofMacro_of_plain hm.1 hv, if_pos hm.2]

/-- A macro that takes no object, or is sought by none, leads where it says. -/
theorem ofMacro_eq (hm : ¬ IsMarked σ entry ∨ v.isClass = true) :
    ofMacro σ v entry =
      match entry.pair? with
      | some (target, name) => .next target name
      | none => .value entry := by
  have hunbound : (!v.isClass && entry.isPlainFunction &&
      isMarked (shownDocumentation (Function.documentation σ entry))) = false := by
    rcases hm with hm | hv
    · rw [Bool.and_assoc, Bool.and_eq_false_iff]
      exact .inr (Bool.eq_false_iff.mpr fun h => hm (Bool.and_eq_true_iff.mp h))
    · rw [hv]
      rfl
  rw [ofMacro]
  cases entry.pair? <;> simp only [hunbound, Bool.false_eq_true, if_false]

theorem ofMacro_cls_of_marked (hm : IsMarked σ entry) : ofMacro σ (.cls c) entry = .value entry := by
  rw [ofMacro_eq (.inr rfl), pair?_of_plain hm.1]

/-- Where what was found for a name leads, if anything was. -/
def ofFound (σ : State) (v : Value) (c : ClassId) (name : String) :
    Option Value → Except Failure Step
  | none => .error (.macroNotFound (σ.qualname c) name)
  | some entry => .ok (ofMacro σ v entry)

end Attribute

theorem Inherits.viaMacro_eq (hi : Inherits σ c) (hname : Text.beginsWith name "__" = false)
    (hfound : Registry.find? σ c (.str name) = .ok found) :
    Attribute.viaMacro r σ v c name = Attribute.ofFound σ v c name found := by
  rw [Attribute.viaMacro, hname, if_neg Bool.false_ne_true, hi.sought_eq, hfound]
  cases found <;> rfl

namespace Answers

/-- The hook that answers for a value seeks on the class. -/
theorem viaHook_eq (ha : Answers σ c) (hs : Seeks σ c v) (name : String) (f : Failure) :
    Attribute.viaHook r σ v name f = Attribute.viaMacro r σ v c name := by
  cases hs with
  | cls =>
    have hhook : σ.inLineage (σ.classOf (.cls c)) "__getattr__" = some (.native .ofClass) := by
      rw [State.classOf, ha.metaclass]
      exact ha.ofClass
    rw [Attribute.viaHook.eq_1 _ _ _ _ _ hhook]
  | object hv hc =>
    have hhook : σ.inLineage (σ.classOf v) "__getattr__" = some (.native .ofObject) := by
      rw [hc]
      exact ha.ofObject
    rw [Attribute.viaHook.eq_2 _ _ _ _ _ hhook, hc]

/-- An unknown name is sought among the macros. -/
theorem step_eq (ha : Answers σ c) (hs : Seeks σ c v) (hu : IsUnknown w r σ v name) :
    Attribute.step w r σ v name = Attribute.viaMacro r σ v c name := by
  obtain ⟨f, hf, hattribute⟩ := hu
  rw [Attribute.step, hf]
  dsimp only
  rw [if_pos hattribute]
  exact ha.viaHook_eq hs name f

end Answers

/-- A name that ordinary look-up finds neither on a class nor on an object of it is read alike on both. If
it means nothing, both fail and say so; if it means a marked function, the object is bound to it; and else
both lead to the same. -/
theorem access_of_unknown (hf : Family σ classes) (hc : c ∈ classes) (ha : Answers σ c)
    (hobj : obj.isClass = false) (hclass : σ.classOf obj = c)
    (hname : Text.beginsWith name "__" = false)
    (hu : IsUnknown w (Reach.within w (Value.maxNesting - 1)) σ (.cls c) name)
    (huobj : IsUnknown w (Reach.within w (Value.maxNesting - 1)) σ obj name) :
    let read := (Reach.of w).read σ
    ∃ found, Registry.find? σ c (.str name) = .ok found ∧
      ((Reach.of w).invoke (.cls c) Native.holds.name [.str name] []).run σ =
        (.ok (.bool found.isSome), σ) ∧
      (found = none → read (.cls c) name = .error (.macroNotFound (σ.qualname c) name) ∧
        read obj name = .error (.macroNotFound (σ.qualname c) name)) ∧
      ∀ entry, found = some entry →
        (IsMarked σ entry → read (.cls c) name = .ok entry ∧
          read obj name = .ok (.bound none entry obj)) ∧
        (¬ IsMarked σ entry → read (.cls c) name = read obj name) := by
  intro read
  have hfound := hf.find?_eq hc name
  have hholds := (ha.toInherits).invoke_holds (w := w) name 988
  rw [hfound] at hholds
  have hstep : ∀ v, Seeks σ c v → IsUnknown w (Reach.within w (980 + 9)) σ v name →
      Attribute.step w (Reach.within w (980 + 9)) σ v name =
        Attribute.ofFound σ v c name (σ.meaning? c name) := fun v hs hu =>
    (ha.step_eq hs hu).trans (ha.viaMacro_eq hname hfound)
  have hstepClass := hstep _ .cls hu
  have hstepObject := hstep _ (.object hobj hclass) huobj
  refine ⟨_, hfound, hholds, fun hnone => ?_, fun entry hentry => ⟨fun hm => ?_, fun hm => ?_⟩⟩
  · rw [hnone] at hstepClass hstepObject
    exact ⟨Attribute.readThrough_of_error hstepClass, Attribute.readThrough_of_error hstepObject⟩
  · rw [hentry, Attribute.ofFound, Attribute.ofMacro_cls_of_marked hm] at hstepClass
    rw [hentry, Attribute.ofFound, Attribute.ofMacro_of_marked hm hobj] at hstepObject
    exact ⟨Attribute.readThrough_of_value hstepClass, Attribute.readThrough_of_value hstepObject⟩
  · rw [hentry] at hstepClass hstepObject
    refine Attribute.readThrough_congr (hstepClass.trans ?_)
    rw [hstepObject, Attribute.ofFound, Attribute.ofFound, Attribute.ofMacro_eq (.inl hm),
      Attribute.ofMacro_eq (.inl hm)]

namespace Basket

def family : List ClassId := [rootClass, .defined "Basket"]

theorem family_state : Family state family := by decide

theorem answers_state : ∀ c ∈ family, Answers state c := by
  simp only [family, List.forall_mem_cons]
  exact ⟨⟨by decide, rfl, rfl⟩, ⟨by decide, rfl, rfl⟩, nofun⟩

end Basket

open Basket in
theorem basket_access_of_unknown :
    (Reach.of site.world).read state (.cls (.defined "Basket")) "top" = .ok top ∧
      (Reach.of site.world).read state (.objectRef "basket") "top" =
        .ok (.bound none top (.objectRef "basket")) := by
  have hc : ClassId.defined "Basket" ∈ family := by decide
  have hmarked : IsMarked state top := ⟨rfl, by decide +kernel⟩
  obtain ⟨found, hfound, -, -, hsome⟩ := access_of_unknown (w := site.world) family_state hc
    (answers_state _ hc) (rfl : (Value.objectRef "basket").isClass = false) rfl
    (by decide +kernel : Text.beginsWith "top" "__" = false)
    (.of_class rfl rfl) (.of_object rfl rfl rfl rfl rfl)
  rw [isMacroOf_top.meansMacro.found] at hfound
  exact (hsome top (Except.ok.inj hfound).symm).1 hmarked

namespace Tray

def tap : Value := .function "tap" "tap" [] .null (.returns .null)

def anything : Value :=
  .function "anything" "anything" [{ name := "self" }, { name := "name" }] .null (.returns (.int 1))

def never : Value := .function "never" "never" [{ name := "name" }] .null (.returns (.bool false))

/-- A macroable class with a hook of its own, and one with a function of its own that says of each name
that it means nothing. -/
def site : Site :=
  (Site.empty default)
    |>.addClass "Tray" "Tray" "Tray" "app" [rootClass] .null [("__getattr__", anything)]
    |>.addClass "Quiet" "Quiet" "Quiet" "app" [rootClass] .null
      [("has_macro", .staticMethod (some "kept") never)]
    |>.addObject "tray" (.defined "Tray") []
    |>.addObject "quiet" (.defined "Quiet") []

def state : State := site.state.withMacros (.defined "Quiet") [("tap", tap)]

theorem isKeptBy_state : ∀ id ∈ ["Tray", "Quiet"], ∀ k ∈ state.lineage (.defined id),
    Registry.IsKeptBy state k := by
  have hlineage : ∀ id ∈ ["Tray", "Quiet"],
      state.lineage (.defined id) = [.defined id, rootClass, objectClass] := by decide
  intro id hid k hk
  rw [hlineage id hid] at hk
  simp only [List.mem_cons, List.not_mem_nil, or_false] at hid hk
  rcases hk with rfl | rfl | rfl
  · rcases hid with rfl | rfl <;> exact .inr ⟨by decide, _, rfl⟩
  · exact .inl rfl
  · exact .inl rfl

/-- The name is no attribute of the classes, of the class above them or of the objects. -/
theorem missing_state : ∀ e ∈ [("Tray", "tray"), ("Quiet", "quiet")],
    state.inLineage (.defined e.1) "tap" = none ∧
      state.inLineage (state.metaclass (.defined e.1)) "tap" = none ∧
      (Descriptor.spaceOf state (.objectRef e.2)).get? "tap" = none := by
  exact List.forall_mem_cons.mpr ⟨⟨rfl, rfl, rfl⟩, List.forall_mem_singleton.mpr ⟨rfl, rfl, rfl⟩⟩

end Tray

open Tray in
/-- An object of the first class tells a name that means nothing, which the class does not; the second
class and its object tell one of which the class says that it means nothing. -/
theorem tray_access_differs :
    let read := (Reach.of site.world).read state
    let has id :=
      ((Reach.of site.world).invoke (.cls (.defined id)) Native.holds.name [.str "tap"] []).run state
    (∀ id ∈ ["Tray", "Quiet"], ∀ k ∈ state.lineage (.defined id), Registry.IsKeptBy state k) ∧
      (∀ e ∈ [("Tray", "tray"), ("Quiet", "quiet")],
        state.inLineage (.defined e.1) "tap" = none ∧
          state.inLineage (state.metaclass (.defined e.1)) "tap" = none ∧
          (Descriptor.spaceOf state (.objectRef e.2)).get? "tap" = none) ∧
      has "Tray" = (.ok (.bool false), state) ∧
      read (.cls (.defined "Tray")) "tap" = .error (.macroNotFound "Tray" "tap") ∧
      read (.objectRef "tray") "tap" = .ok (.int 1) ∧
      has "Quiet" = (.ok (.bool false), state) ∧
      read (.cls (.defined "Quiet")) "tap" = .ok tap ∧ read (.objectRef "quiet") "tap" = .ok tap := by
  refine ⟨isKeptBy_state, missing_state, ?_, ?_, ?_, ?_, ?_, ?_⟩ <;> with_unfolding_all rfl

end MacroStubs
