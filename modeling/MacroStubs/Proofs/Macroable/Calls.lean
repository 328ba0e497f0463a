import MacroStubs.Proofs.Macroable.History

/-! # Calls on macroable classes

What calling the functions of the root class on a class with a registry of its own gives and leaves.
-/

namespace MacroStubs

variable {w : World} {σ σ' : State} {c : ClassId} {name : String} {n : Native} {v : Value}
variable {entries : List (Value × Value)} {classes : List ClassId} {h : History} {i : Nat}

theorem Call.valuesOf_of_ok {f : Value} {arguments : List Value} {keywords : Table String Value}
    {values : List (String × Value)}
    (hv : Arguments.ofCall (Function.parameters σ f) arguments keywords = .ok values) :
    (Call.valuesOf f arguments keywords).run σ = (.ok values, σ) := by
  rw [Call.valuesOf, Run.get_bind, hv]
  rfl

namespace Registry

theorem register_run (he : σ.inClass c (fieldOf c) = some (.dict entries)) :
    (register c (.str name) v).run σ =
      (.ok (), σ.putInClass c (fieldOf c) (.dict (Table.put entries (Value.str name) v))) := by
  have ho : of σ c = .ok (.dict entries) := by rw [of, he]; rfl
  rw [register, Run.bind_of_ok (Run.read_of_ok ho)]
  rfl

theorem flush_run (he : σ.inClass c (fieldOf c) = some (.dict entries)) :
    (flush c).run σ = (.ok (), σ.putInClass c (fieldOf c) (.dict [])) := by
  have ho : of σ c = .ok (.dict entries) := by rw [of, he]; rfl
  rw [flush, Run.bind_of_ok (Run.read_of_ok ho)]
  rfl

end Registry

/-- A class method of the root class is called with the class in front of its arguments. -/
theorem Native.invoke_of_read
    (hread : (Reach.within w (i + 2)).read σ (.cls c) n.name =
      .ok (.bound none (.native n) (.cls c)))
    {arguments : List Value} {keywords : Table String Value} {values : List (String × Value)}
    (hv : Arguments.ofCall n.parameters (.cls c :: arguments) keywords = .ok values) :
    ((Reach.within w (i + 2)).invoke (.cls c) n.name arguments keywords).run σ =
      (Registration.perform (Reach.within w i) n (values.map (·.2))).run σ := by
  have hp : Function.parameters σ (.native n) = n.parameters := by cases n <;> rfl
  rw [Reach.invoke, Run.bind_of_ok (Run.read_of_ok hread)]
  have hd : (Reach.within w (i + 2)).call (.bound none (.native n) (.cls c)) arguments keywords =
      (do
        let values ← Call.valuesOf (.native n) (.cls c :: arguments) keywords
        Registration.perform (Reach.within w i) n (values.map (·.2))) := rfl
  rw [hd]
  exact Run.bind_of_ok (Call.valuesOf_of_ok (by rw [hp, hv]))

namespace Inherits

theorem invoke (hc : Inherits σ c) (hn : n ∈ Native.inherited)
    {arguments : List Value} {keywords : Table String Value} {values : List (String × Value)}
    (hv : Arguments.ofCall n.parameters (.cls c :: arguments) keywords = .ok values) (i : Nat) :
    ((Reach.within w (i + 2)).invoke (.cls c) n.name arguments keywords).run σ =
      (Registration.perform (Reach.within w i) n (values.map (·.2))).run σ :=
  Native.invoke_of_read (hc.read hn (i + 1)) hv

/-- The registry that a class tells is its own. -/
theorem placeOf_run (hc : Inherits σ c) (i : Nat) :
    (Registration.placeOf (Reach.within w (i + 1)) (.cls c)).run σ = (.ok (.kept c), σ) := by
  rw [Registration.placeOf, Run.bind_of_ok
    (Run.read_of_ok (hc.read (n := .registry) (by decide) i))]
  rfl

theorem sought_eq (hc : Inherits σ c) (r : Reach) (name : Value) :
    Attribute.sought r σ c name = Registry.find? σ c name := by
  have hf : σ.inLineage c Native.find.name = some (.classMethod none (.native .find)) :=
    hc.found .find (by decide)
  rw [Attribute.sought, hf]

/-- Whether a name means something is asked of the registries; what they fail with is raised. -/
theorem invoke_holds (hc : Inherits σ c) (name : String) (i : Nat) :
    ((Reach.within w (i + 2)).invoke (.cls c) Native.holds.name [.str name] []).run σ =
      ((fun found => .bool found.isSome) <$> Registry.find? σ c (.str name), σ) := by
  have hv : Arguments.ofCall Native.holds.parameters [.cls c, .str name] [] =
    .ok [("cls", .cls c), ("name", .str name)] := rfl
  have hs := hc.sought_eq (Reach.within w i) (.str name)
  rw [hc.invoke (by decide) hv]
  cases hf : Registry.find? σ c (.str name) with
  | ok found =>
    have hg : (Registration.holds (Reach.within w i) (.cls c) (.str name)).run σ =
        (.ok found.isSome, σ) := Run.bind_of_ok (Run.read_of_ok (hs.trans hf))
    exact Run.bind_of_ok hg
  | error failure =>
    have hg : (Registration.holds (Reach.within w i) (.cls c) (.str name)).run σ =
        (.error failure, σ) := Run.bind_of_error (congrArg (·, σ) (hs.trans hf))
    exact Run.bind_of_error hg

theorem truth_holds (hc : Inherits σ c) (name : String) (i : Nat) :
    (do
      BuiltinCall.truth (Reach.within w (i + 2))
        (← (Reach.within w (i + 2)).invoke (.cls c) Native.holds.name [.str name] [])).run σ =
      (Option.isSome <$> Registry.find? σ c (.str name), σ) := by
  have hh := hc.invoke_holds (w := w) name i
  cases hf : Registry.find? σ c (.str name) with
  | ok found =>
    rw [hf] at hh
    exact Run.bind_of_ok hh
  | error failure =>
    rw [hf] at hh
    exact Run.bind_of_error hh

/-- Registering a macro puts it into the registry of the class. -/
theorem invoke_register (hc : Inherits σ c)
    (he : σ.inClass c (Registry.fieldOf c) = some (.dict entries)) (name : String) (v : Value)
    (i : Nat) :
    ((Reach.within w (i + 3)).invoke (.cls c) Native.register.name [.str name, v] []).run σ =
      (.ok .null,
        σ.putInClass c (Registry.fieldOf c) (.dict (Table.put entries (Value.str name) v))) := by
  have hv : Arguments.ofCall Native.register.parameters [.cls c, .str name, v] [] =
    .ok [("cls", .cls c), ("name", .str name), ("macro", v)] := rfl
  rw [hc.invoke (by decide) hv]
  have hg : (Registration.register (Reach.within w (i + 1)) (.cls c) (.str name) v).run σ =
      (.ok (), σ.putInClass c (Registry.fieldOf c)
        (.dict (Table.put entries (Value.str name) v))) := by
    rw [Registration.register, Run.bind_of_ok (hc.placeOf_run i)]
    exact Registry.register_run he
  exact Run.bind_of_ok hg

end Inherits

/-- A state that has the lineages and all but the registries of the classes from the state before. -/
structure Beside (σ : State) (classes : List ClassId) (σ' : State) : Prop where
  lineage : σ'.lineage = σ.lineage
  elsewhere : ∀ k name, k ∉ classes ∨ name ≠ ownField ∧ name ≠ sharedField →
    σ'.inClass k name = σ.inClass k name

theorem Beside.putInClass (hb : Beside σ classes σ') (hc : c ∈ classes) :
    Beside σ classes (σ'.putInClass c (Registry.fieldOf c) v) where
  lineage := (funext fun _ => State.lineage_putInClass).trans hb.lineage
  elsewhere k name ho := (State.inClass_putInClass_elsewhere hc ho).trans (hb.elsewhere k name ho)

/-- A state that was left with a history, the lineages and all but the registries of the classes
being those of the state before. -/
structure Leaves (σ : State) (classes : List ClassId) (h : History) (σ' : State) : Prop
    extends Beside σ classes σ' where
  remembers : Remembers σ' classes h

/-- A state and its history that come from others by changing one registry of the classes at a time: a
macro is put into it, or it is emptied. -/
inductive Steps (classes : List ClassId) (σ : State) (h : History) : State → History → Prop
  | refl : Steps classes σ h σ h
  | register {τ : State} {g : History} {c : ClassId} {entries : List (Value × Value)}
      (hs : Steps classes σ h τ g) (hc : c ∈ classes)
      (he : τ.inClass c (Registry.fieldOf c) = some (.dict entries)) (name : String) (v : Value) :
      Steps classes σ h
        (τ.putInClass c (Registry.fieldOf c) (.dict (Table.put entries (Value.str name) v)))
        (.registered c name v :: g)
  | empty {τ : State} {g : History} {c : ClassId} (hs : Steps classes σ h τ g) (hc : c ∈ classes) :
      Steps classes σ h (τ.putInClass c (Registry.fieldOf c) (.dict [])) (.emptied c :: g)

namespace Steps

variable {g h' : History} {τ : State}

theorem trans (hs : Steps classes σ h τ g) (hs' : Steps classes τ g σ' h') :
    Steps classes σ h σ' h' := by
  induction hs' with
  | refl => exact hs
  | register _ hc he name v ih => exact ih.register hc he name v
  | empty _ hc ih => exact ih.empty hc

/-- What lasts while one registry of the classes is put anew lasts through all changes. -/
theorem lasts {P : State → Prop} (hs : Steps classes σ h σ' h')
    (hput : ∀ {τ : State} {c : ClassId} {entries : List (Value × Value)}, P τ → c ∈ classes →
      P (τ.putInClass c (Registry.fieldOf c) (.dict entries)))
    (hσ : P σ) : P σ' := by
  induction hs with
  | refl => exact hσ
  | register _ hc _ _ _ ih => exact hput ih hc
  | empty _ hc ih => exact hput ih hc

theorem beside (hs : Steps classes σ h σ' h') : Beside σ classes σ' :=
  hs.lasts .putInClass ⟨rfl, fun _ _ _ => rfl⟩

theorem kindred (hs : Steps classes σ h σ' h') (hσ : Kindred σ classes) : Kindred σ' classes :=
  hs.lasts (P := (Kindred · classes)) .putInClass hσ

theorem hierarchy (hs : Steps classes σ h σ' h') (hσ : Hierarchy σ classes) :
    Hierarchy σ' classes :=
  hs.lasts (P := (Hierarchy · classes)) .putInClass hσ

/-- Registries that hold what a history says before some changes hold after them what the history
says then. -/
theorem records (hs : Steps classes σ h σ' h') (hr : Records σ classes h) :
    Records σ' classes h' := by
  induction hs with
  | refl => exact hr
  | register _ hc he name v ih => exact ih.register hc he
  | empty _ hc ih => exact ih.empty hc

theorem leaves (hs : Steps classes σ h σ' h') (hr : Remembers σ classes h) :
    Leaves σ classes h' σ' where
  toBeside := hs.beside
  remembers := ⟨hs.records hr.toRecords, hs.hierarchy hr.hierarchy⟩

theorem of_run {α : Type} {x : Run α} {result : Except Failure α} (hrun : x.run σ = (result, σ'))
    (hs : Steps classes σ h σ' h') : Steps classes σ h (x.run σ).2 h' := by
  rw [hrun]
  exact hs

end Steps

namespace Kindred

theorem register_steps (hk : Kindred σ classes) (hc : c ∈ classes) (h : History) (name : String)
    (v : Value) :
    Steps classes σ h ((Registry.register c (.str name) v).run σ).2 (.registered c name v :: h) := by
  obtain ⟨entries, he⟩ := hk.registry c hc
  rw [Registry.register_run he]
  exact .register .refl hc he name v

/-- Registering a macro through a class. -/
theorem invoke_register (hk : Kindred σ classes) (hc : c ∈ classes) (name : String) (v : Value)
    (i : Nat) :
    ((Reach.within w (i + 3)).invoke (.cls c) Native.register.name [.str name, v] []).run σ =
      (.ok .null, ((Registry.register c (.str name) v).run σ).2) := by
  obtain ⟨entries, he⟩ := hk.registry c hc
  rw [Registry.register_run he]
  exact (hk.inherits c hc).invoke_register he name v i

/-- Registering a macro for all through any class. -/
theorem invoke_registerGlobally (hk : Kindred σ classes) (hc : c ∈ classes) (h : History)
    (name : String) (v : Value) (i : Nat) :
    ∃ σ', ((Reach.within w (i + 2)).invoke (.cls c) Native.registerGlobally.name
      [.str name, v] []).run σ = (.ok .null, σ') ∧
        Steps classes σ h σ' (.registered rootClass name v :: h) := by
  have hi := hk.inherits c hc
  obtain ⟨entries, he⟩ := hk.registry rootClass hk.root
  refine ⟨_, ?_, .register .refl hk.root he name v⟩
  have hv : Arguments.ofCall Native.registerGlobally.parameters [.cls c, .str name, v] [] =
    .ok [("cls", .cls c), ("name", .str name), ("macro", v)] := rfl
  rw [hi.invoke (by decide) hv]
  exact Run.bind_of_ok (Registry.register_run he)

/-- Removing the macros of a class. -/
theorem invoke_flush (hk : Kindred σ classes) (hc : c ∈ classes) (h : History) (i : Nat) :
    ∃ σ', ((Reach.within w (i + 3)).invoke (.cls c) Native.flush.name [] []).run σ =
      (.ok .null, σ') ∧ Steps classes σ h σ' (.emptied c :: h) := by
  have hi := hk.inherits c hc
  obtain ⟨entries, he⟩ := hk.registry c hc
  refine ⟨_, ?_, .empty .refl hc⟩
  have hv : Arguments.ofCall Native.flush.parameters [.cls c] [] = .ok [("cls", .cls c)] := rfl
  rw [hi.invoke (by decide) hv]
  have hg : (Registration.flush (Reach.within w (i + 1)) (.cls c)).run σ =
      (.ok (), σ.putInClass c (Registry.fieldOf c) (.dict [])) := by
    rw [Registration.flush, Run.bind_of_ok (hi.placeOf_run i)]
    exact Registry.flush_run he
  exact Run.bind_of_ok hg

end Kindred

namespace Remembers

theorem invoke_find (hr : Remembers σ classes h) (hc : c ∈ classes) (name : String) (i : Nat) :
    ((Reach.within w (i + 2)).invoke (.cls c) Native.find.name [.str name] []).run σ =
      (.ok ((h.meaning? (σ.lineage c) name).getD .missing), σ) := by
  have hi := hr.hierarchy.inherits c hc
  have hv : Arguments.ofCall Native.find.parameters [.cls c, .str name] [] =
    .ok [("cls", .cls c), ("name", .str name)] := rfl
  rw [hi.invoke (by decide) hv]
  exact Run.bind_of_ok (Run.read_of_ok (hr.find?_eq hc name))

theorem invoke_holds (hr : Remembers σ classes h) (hc : c ∈ classes) (name : String) (i : Nat) :
    ((Reach.within w (i + 2)).invoke (.cls c) Native.holds.name [.str name] []).run σ =
      (.ok (.bool (h.meaning? (σ.lineage c) name).isSome), σ) := by
  rw [(hr.hierarchy.inherits c hc).invoke_holds, hr.find?_eq hc]
  rfl

end Remembers
end MacroStubs
