import MacroStubs.Proofs.Declaration.FunctionMacro
import MacroStubs.World.Build

/-! # Pairs as macros

The declaration of a pair looks at what the class of the target holds, a caller at what reading it
through the target gives. The two leave the same parameters unless reading changes nothing and the
first parameter is positional: the declaration drops that one all the same.
-/

namespace MacroStubs

variable {w : World} {σ : State} {pair target raw got : Value} {name title : String} {c : ClassId}
variable {ps qs : ParameterList} {m : Method}

/-- The class that the method of a pair is sought on. -/
def State.ownerOf (σ : State) : Value → ClassId
  | .cls c => c
  | v => σ.classOf v

/-- The object that a function of the class is bound to when it is read. -/
def Value.object? : Value → Option Value
  | .cls _ => none
  | v => some v

/-- Whether reading an attribute of a class leaves it as the class holds it: it is no function,
nothing that stands for another attribute, and no object that says itself what it is read as. -/
def Descriptor.isLeft (σ : State) : Value → Bool
  | .staticMethod .. | .classMethod .. | .function .. | .wrapped .. | .native _ | .property .. |
    .member .. => false
  | .objectRef id => !isBinding σ (.objectRef id)
  | .fresh c => !isBinding σ (.fresh c)
  | _ => true

theorem Descriptor.get_of_isLeft {r : Reach} {object : Option Value} {cls : Value}
    (h : isLeft σ raw = true) : get r σ raw object cls = .ok raw := by
  have hb : ∀ v, (!isBinding σ v) = true → σ.inLineage (σ.classOf v) "__get__" = none := by
    intro v hv
    rw [isBinding, Bool.not_eq_true', Option.isSome_eq_false_iff, Option.isNone_iff_eq_none] at hv
    exact hv
  cases raw with
  | objectRef id =>
    rw [get, hb _ h]
    rfl
  | fresh c =>
    rw [get, hb _ h]
    rfl
  | _ => first | rfl | cases h

theorem Macro.static?_of_isLeft (h : Descriptor.isLeft σ raw = true) : static? raw = none := by
  cases raw <;> first | rfl | cases h

theorem Macro.unbound_of_isLeft (h : Descriptor.isLeft σ raw = true) : unbound raw = raw := by
  cases raw <;> first | rfl | cases h

/-- What a class may hold as a method: a function, a static or a class method, or an object that
reading leaves as it is. -/
inductive IsMethod (σ : State) : Value → Prop
  | function {f : Value} (hf : f.isPlainFunction = true) : IsMethod σ f
  | ofNone (id : Option String) (inner : Value) : IsMethod σ (.staticMethod id inner)
  | ofClass (id : Option String) {inner : Value}
      (hi : inner.isPlainFunction = true ∨ Descriptor.isBinding σ inner = false) :
      IsMethod σ (.classMethod id inner)
  | object {v : Value} (hv : Descriptor.isLeft σ v = true) : IsMethod σ v

/-- How reading an attribute and declaring it are related: both take a static method for what it is
made of, reading binds what is declared without its receiver, or reading changes nothing. -/
inductive ReadsAs (raw : Value) : Value → Prop
  | ofNone {got : Value} (hs : Macro.static? raw = some got) (hne : got ≠ raw) : ReadsAs raw got
  | bound (id : Option String) (self : Value) (hs : Macro.static? raw = none)
      (hne : .bound id (Macro.unbound raw) self ≠ raw) :
      ReadsAs raw (.bound id (Macro.unbound raw) self)
  | unchanged (hs : Macro.static? raw = none) (hu : Macro.unbound raw = raw) : ReadsAs raw raw

theorem static?_of_plain (hf : raw.isPlainFunction = true) : Macro.static? raw = none := by
  cases raw <;> first | rfl | cases hf

theorem unbound_of_plain (hf : raw.isPlainFunction = true) : Macro.unbound raw = raw := by
  cases raw <;> first | rfl | cases hf

theorem Descriptor.get_of_plain {r : Reach} {cls : Value} (hf : raw.isPlainFunction = true)
    (object : Option Value) :
    get r σ raw object cls = .ok (match object with
      | some v => .bound none raw v
      | none => raw) := by
  cases raw <;> first | (cases object <;> rfl) | cases hf

theorem bound_ne_of_plain {id : Option String} {inner self : Value}
    (hf : raw.isPlainFunction = true) : .bound id inner self ≠ raw := by
  rintro rfl
  cases hf

/-- Reading a class method binds the class. -/
theorem Descriptor.get_classMethod {r : Reach} {id : Option String} {inner cls : Value}
    {object : Option Value}
    (hi : inner.isPlainFunction = true ∨ isBinding σ inner = false) :
    get r σ (.classMethod id inner) object cls = .ok (.bound none inner cls) := by
  rw [get]
  rcases hi with hf | hn
  · split
    · exact get_of_plain hf (some cls)
    · rfl
  · rw [hn, if_neg Bool.false_ne_true]
    rfl

/-- What a method is read as does not depend on how attributes are read. It is what the class holds
if that is an object which reading leaves as it is, or a function without an object to be bound to.
-/
theorem IsMethod.readsAs (h : IsMethod σ raw) (object : Option Value) (cls : Value) :
    ∃ got, (∀ r, Descriptor.get r σ raw object cls = .ok got) ∧ ReadsAs raw got ∧
      (got = raw ↔
        Descriptor.isLeft σ raw = true ∨ raw.isPlainFunction = true ∧ object = none) := by
  cases h with
  | function hf =>
    cases object with
    | none => exact ⟨_, fun r => Descriptor.get_of_plain hf none,
        .unchanged (static?_of_plain hf) (unbound_of_plain hf), by simp [hf]⟩
    | some v =>
      refine ⟨_, fun r => Descriptor.get_of_plain hf (some v), ?_, ?_⟩
      · have hne : Value.bound none (Macro.unbound raw) v ≠ raw := bound_ne_of_plain hf
        have hb := ReadsAs.bound none v (static?_of_plain hf) hne
        rwa [unbound_of_plain hf] at hb
      · have hl : Descriptor.isLeft σ raw = false := by
          cases raw <;> first | rfl | cases hf
        simp [hl, bound_ne_of_plain hf]
  | ofNone id inner =>
    have hne : inner ≠ .staticMethod id inner := by
      intro he
      have hs := congrArg sizeOf he
      simp at hs
    exact ⟨inner, fun r => rfl, .ofNone rfl hne,
      by simp [hne, Descriptor.isLeft, Value.isPlainFunction]⟩
  | ofClass id hi =>
    exact ⟨_, fun r => Descriptor.get_classMethod hi, .bound none cls rfl nofun,
      by simp [Descriptor.isLeft, Value.isPlainFunction]⟩
  | object hv =>
    exact ⟨raw, fun r => Descriptor.get_of_isLeft hv,
      .unchanged (Macro.static?_of_isLeft hv) (Macro.unbound_of_isLeft hv), by simp [hv]⟩

/-- Nothing is read in front of what the class of the target holds: no attribute of the class above
it, and none of the object itself. -/
def IsReadFromClass (σ : State) (target : Value) (name : String) (raw : Value) : Prop :=
  match target with
  | .cls c => ∀ other, σ.inLineage (σ.metaclass c) name = some other →
      Descriptor.isData σ other = false
  | v => Descriptor.definesSpecial σ v "__getattribute__" = false ∧
      (Descriptor.isData σ raw = true ∨ (Descriptor.spaceOf σ v).get? name = none)

theorem Attribute.ordinary_of_owner {r : Reach}
    (hraw : σ.inLineage (σ.ownerOf target) name = some raw)
    (hr : IsReadFromClass σ target name raw) :
    ordinary w r σ target name =
      Descriptor.get r σ raw target.object? (.cls (σ.ownerOf target)) := by
  cases target with
  | cls c => exact ordinary_of_class hraw hr
  | _ => exact ordinary_of_held rfl hr.1 hraw hr.2

namespace Macro

theorem ofValue_of_pair (hp : pair.pair? = some (target, name)) :
    ofValue σ pair = .method (σ.ownerOf target) name := by
  rw [ofValue, hp]
  cases target <;> rfl

theorem raw_of_held (hraw : σ.inLineage c name = some raw) : Macro.raw σ c name = .ok raw := by
  have hs : Attribute.static? σ (.cls c) name = some raw := by
    rw [Attribute.static?, hraw]
    rfl
  rw [Macro.raw, hs]
  rfl

theorem dropReceiver_eq_self_iff :
    dropReceiver ps = ps ↔ Declaration.startsWithReceiver true ps = false := by
  cases ps with
  | nil => exact ⟨fun _ => rfl, fun _ => rfl⟩
  | cons p rest =>
    rw [dropReceiver]
    cases hp : p.kind.isPositional with
    | true => simp [Declaration.startsWithReceiver, hp]
    | false => simp [Declaration.startsWithReceiver, hp]

end Macro

/-- The parameters that a pair is declared with are those of what is read, unless reading changes
nothing and the first one is positional. -/
theorem ReadsAs.parameters (h : ReadsAs raw got) (hraw : σ.inLineage c name = some raw)
    (hps : signature w (Reach.of w) σ got = .ok ps) :
    ∃ qs, (Macro.method c name).parameters w (Reach.of w) σ = .ok qs ∧
      (qs = ps ↔ ¬ (got = raw ∧ Declaration.startsWithReceiver true ps = true)) := by
  rw [Macro.parameters, Macro.raw_of_held hraw]
  cases h with
  | ofNone hs hne =>
    refine ⟨ps, ?_, by simp [hne]⟩
    simp only [bind, Except.bind, hs]
    exact hps
  | bound id self hs hne =>
    obtain ⟨qs, hqs, hd⟩ := Signature.signature_bound hps
    refine ⟨ps, ?_, by simp [hne]⟩
    simp only [bind, Except.bind, hs, hqs]
    rw [dropReceiver_of_dropFirst hd]
    rfl
  | unchanged hs hu =>
    refine ⟨Macro.dropReceiver ps, ?_, by simp [Macro.dropReceiver_eq_self_iff]⟩
    simp only [bind, Except.bind, hs, hu, hps]
    rfl

/-- A macro whose method is called through its target is declared with the parameters that it takes,
as soon as its documentation can be told. -/
theorem Entry.declares_method {e : Entry} (he : e.entry = .method c name)
    (hqs : (Macro.method c name).parameters w (Reach.of w) σ = .ok qs) :
    (∀ m, e.Declares w σ m → m.callerParameters = qs) ∧
      ∀ doc, e.entry.docstring (Reach.of w) σ = .ok doc → ∃ m, e.Declares w σ m := by
  have hany : (e.reflect w (Reach.of w) σ).parametersOrAny = .ok qs := by
    refine Reflection.parametersOrAny_of_ok ?_
    rw [Entry.reflect, he]
    exact hqs
  constructor
  · intro m hm
    obtain ⟨rs, doc, hrs, -, rfl⟩ := Reflection.method?_eq_ok.mp hm
    obtain rfl : rs = qs := Except.ok.inj (hrs.symm.trans hany)
    have hi : (e.reflect w (Reach.of w) σ).includesReceiver = false := by
      rw [Entry.reflect, he]
      rfl
    rw [hi]
    exact Method.callerParameters_method _ doc rs
  · intro doc hdoc
    exact ⟨_, Reflection.method?_eq_ok.mpr ⟨qs, doc, hany, hdoc, rfl⟩⟩

theorem Value.same_objectRef_cls {id : String} : same (.objectRef id) (.cls c) = false := by
  simp [same, identity?, sameNumber, int?, parts?]

/-- An object claims to be no class unless it compares itself in a way of its own. -/
theorem Signature.claimsToBe_objectRef {r : Reach} {id : String}
    (h : Descriptor.definesSpecial σ (.objectRef id) "__eq__" = false) :
    claimsToBe r σ (.objectRef id) c = .ok false := by
  rw [claimsToBe, h, if_neg Bool.false_ne_true, Value.same_objectRef_cls]
  rfl

/-- The declaration of a pair leaves a caller the parameters of what reading the method through the
target gives, unless reading leaves it as the class holds it and its first parameter is positional.
-/
theorem pair_declaration_agrees_iff (hp : pair.pair? = some (target, name))
    (hraw : σ.inLineage (σ.ownerOf target) name = some raw) (hm : IsMethod σ raw)
    (hr : IsReadFromClass σ target name raw) (title : String) :
    ∃ got, (Reach.of w).read σ target name = .ok got ∧
      (got = raw ↔
        Descriptor.isLeft σ raw = true ∨ raw.isPlainFunction = true ∧ target.isClass = true) ∧
      ∀ ps, signature w (Reach.of w) σ got = .ok ps →
        (∀ m, Entry.Declares w σ { name := title, entry := .ofValue σ pair } m →
          (m.callerParameters = ps ↔
            ¬ (got = raw ∧ Declaration.startsWithReceiver true ps = true))) ∧
        ∀ doc, (Macro.ofValue σ pair).docstring (Reach.of w) σ = .ok doc →
          ∃ m, Entry.Declares w σ { name := title, entry := .ofValue σ pair } m := by
  obtain ⟨got, hget, has, hgot⟩ := hm.readsAs target.object? (.cls (σ.ownerOf target))
  have ho : target.object? = none ↔ target.isClass = true := by
    cases target <;> simp [Value.object?, Value.isClass]
  rw [ho] at hgot
  refine ⟨got, ?_, hgot, fun ps hps => ?_⟩
  · rw [Reach.of_eq, Reach.read_within]
    exact Attribute.readThrough_of_ordinary ((Attribute.ordinary_of_owner hraw hr).trans (hget _))
  · obtain ⟨qs, hqs, hiff⟩ := has.parameters (w := w) hraw hps
    obtain ⟨hcaller, hdeclared⟩ := Entry.declares_method
      (e := { name := title, entry := .ofValue σ pair }) (Macro.ofValue_of_pair hp) hqs
    refine ⟨fun m hd => ?_, hdeclared⟩
    rw [hcaller m hd]
    exact hiff

namespace Handler

/-- A function that takes an object and a value. -/
def handle : Value :=
  .function "handle" "handle" [{ name := "self" }, { name := "value" }] .null .record

/-- A target whose class holds the function and an object that is called through the function. -/
def site : Site :=
  (Site.empty default)
    |>.addClass "Handler" "Handler" "Handler" "app" [] .null [("__call__", handle)]
    |>.addObject "handler" (.defined "Handler") []
    |>.addClass "Target" "Target" "Target" "app" [] .null
      [("run", .objectRef "handler"), ("handle", handle)]
    |>.addObject "target" (.defined "Target") []

/-- The method of the target with this name as a macro. -/
def entry (name : String) : Entry :=
  { name, entry := .ofValue site.state (.tuple [.objectRef "target", .str name]) }

theorem isReadFromClass_handle :
    IsReadFromClass site.state (.objectRef "target") "handle" handle := ⟨rfl, .inr rfl⟩

theorem isBuiltin_handler :
    Signature.isBuiltin (Reach.of site.world) site.state (.objectRef "handler") = .ok false := by
  have he : Descriptor.definesSpecial site.state (.objectRef "handler") "__eq__" = false := rfl
  have hg : (site.state.inLineage (site.state.classOf (.objectRef "handler")) "__get__").isSome =
    false := rfl
  rw [Signature.isBuiltin, Signature.claimsToBe_objectRef he, Signature.claimsToBe_objectRef he, hg]
  rfl

theorem signature_handler :
    signature site.world (Reach.of site.world) site.state (.objectRef "handler") =
      .ok [{ name := "value" }] := by
  have hs : signature site.world (Reach.of site.world) site.state (.objectRef "handler") =
    Signature.ofUnwrapped site.world (Reach.of site.world) site.state
      (Signature.within site.world (Reach.of site.world) site.state 989)
      (.objectRef "handler") := rfl
  rw [hs]
  unfold Signature.ofUnwrapped
  rw [isBuiltin_handler]
  rfl

end Handler

/-- A function is bound to the target, so its declaration agrees. -/
theorem handle_pair_declaration_agrees :
    ∃ m, (Handler.entry "handle").Declares Handler.site.world Handler.site.state m ∧
      signature Handler.site.world (Reach.of Handler.site.world) Handler.site.state
        (.bound none Handler.handle (.objectRef "target")) = .ok m.callerParameters := by
  have hp : (Value.tuple [.objectRef "target", .str "handle"]).pair? =
    some (.objectRef "target", "handle") := rfl
  obtain ⟨got, hread, -, h⟩ := pair_declaration_agrees_iff (w := Handler.site.world) hp rfl
    (.function rfl) Handler.isReadFromClass_handle "handle"
  obtain rfl : .bound none Handler.handle (.objectRef "target") = got :=
    Except.ok.inj (Eq.trans (by rfl) hread)
  obtain ⟨hiff, hdeclared⟩ := h [{ name := "value" }] rfl
  obtain ⟨m, hm⟩ := hdeclared none rfl
  have hne : Value.bound none Handler.handle (.objectRef "target") ≠ Handler.handle := nofun
  refine ⟨m, hm, ?_⟩
  rw [(hiff m hm).mpr fun hc => hne hc.1]
  rfl

/-- The object in the class takes a value and is declared without any. -/
theorem handler_pair_declaration_disagrees :
    (Reach.of Handler.site.world).read Handler.site.state (.objectRef "target") "run" =
        .ok (.objectRef "handler") ∧
      signature Handler.site.world (Reach.of Handler.site.world) Handler.site.state
        (.objectRef "handler") = .ok [{ name := "value" }] ∧
      ∃ m, (Handler.entry "run").Declares Handler.site.world Handler.site.state m ∧
        m.callerParameters = [] := by
  have hraw : Handler.site.state.inLineage (.defined "Target") "run" =
    some (.objectRef "handler") := rfl
  have hqs : (Macro.method (.defined "Target") "run").parameters Handler.site.world
      (Reach.of Handler.site.world) Handler.site.state = .ok [] := by
    have hps := Handler.signature_handler
    rw [Macro.parameters, Macro.raw_of_held hraw]
    simp only [bind, Except.bind, Macro.static?, Macro.unbound, Option.getD_none, hps]
    rfl
  obtain ⟨hcaller, hdeclared⟩ := Entry.declares_method (e := Handler.entry "run") rfl hqs
  obtain ⟨m, hm⟩ := hdeclared none rfl
  exact ⟨rfl, Handler.signature_handler, m, hm, hcaller m hm⟩

end MacroStubs
