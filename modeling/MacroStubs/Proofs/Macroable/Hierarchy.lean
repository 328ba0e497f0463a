import MacroStubs.Proofs.Macroable.Registry

/-! # Hierarchies

Some classes below the root class, with the root class, each with a registry of its own. The functions of
the root class are found through each of them, and reading one binds it to the class. In a hierarchy the
lineages hold no more in the place of registries. Registering and removing macros changes nothing but the
registry of one class, so a hierarchy stays one.
-/

namespace MacroStubs

/-- The class methods that classes inherit from the root class. -/
def Native.inherited : List Native :=
  [.registry, .find, .register, .registerGlobally, .adopt, .holds, .flush]

/-- Under the names of the functions of the root class the class finds these functions, and the class
above it has nothing. -/
structure Inherits (σ : State) (c : ClassId) : Prop where
  metaclass : σ.metaclass c = rootMetaclass
  found : ∀ n ∈ Native.inherited, σ.inLineage c n.name = some (.classMethod none (.native n))
  above : ∀ n ∈ Native.inherited, σ.inLineage rootMetaclass n.name = none

/-- The class method of the root class with nothing in its place. -/
def Value.isInherited (n : Native) : Value → Bool
  | .classMethod none (.native m) => m = n
  | _ => false

theorem Value.any_isInherited_iff {n : Native} {found : Option Value} :
    found.any (Value.isInherited n) = true ↔ found = some (.classMethod none (.native n)) := by
  constructor
  · intro h
    cases found with
    | none => cases h
    | some v =>
      rw [Option.any_some] at h
      unfold Value.isInherited at h
      split at h
      · rw [of_decide_eq_true h]
      · cases h
  · rintro rfl
    exact decide_eq_true rfl

instance (σ : State) (c : ClassId) : Decidable (Inherits σ c) :=
  decidable_of_iff
    (σ.metaclass c = rootMetaclass ∧
      (∀ n ∈ Native.inherited, (σ.inLineage c n.name).any (Value.isInherited n) = true) ∧
      ∀ n ∈ Native.inherited, σ.inLineage rootMetaclass n.name = none)
    ⟨fun ⟨hm, hf, ha⟩ => ⟨hm, fun n hn => Value.any_isInherited_iff.mp (hf n hn), ha⟩,
      fun h => ⟨h.metaclass, fun n hn => Value.any_isInherited_iff.mpr (h.found n hn), h.above⟩⟩

namespace Inherits

variable {w : World} {σ : State} {c : ClassId} {n : Native}

/-- A class method of the root class is bound to the class that it is read through. -/
theorem ordinary (h : Inherits σ c) (hn : n ∈ Native.inherited) (r : Reach) :
    Attribute.ordinary w r σ (.cls c) n.name = .ok (.bound none (.native n) (.cls c)) := by
  have habove : σ.inLineage (σ.metaclass c) n.name = none := by
    rw [h.metaclass]
    exact h.above n hn
  rw [Attribute.ordinary_of_class (h.found n hn) fun other ho => by rw [habove] at ho; cases ho]
  rfl

theorem read (h : Inherits σ c) (hn : n ∈ Native.inherited) (i : Nat) :
    (Reach.within w (i + 1)).read σ (.cls c) n.name = .ok (.bound none (.native n) (.cls c)) :=
  Attribute.readThrough_of_ordinary (h.ordinary hn _)

end Inherits

variable {σ : State} {c k : ClassId} {name field : String} {n : Native} {v : Value}
variable {entries : List (Value × Value)} {classes : List ClassId}

/-- Classes that inherit the functions of the root class, each with a registry of its own. Other classes
that they descend from may keep anything in the place of registries. -/
structure Kindred (σ : State) (classes : List ClassId) : Prop where
  root : rootClass ∈ classes
  inherits : ∀ c ∈ classes, Inherits σ c
  registry : ∀ c ∈ classes, ∃ entries, σ.inClass c (Registry.fieldOf c) = some (.dict entries)

/-- Classes that inherit the functions of the root class and whose registries are all that their
lineages hold. -/
structure Hierarchy (σ : State) (classes : List ClassId) : Prop extends Kindred σ classes where
  others : ∀ c ∈ classes, ∀ k ∈ σ.lineage c, k ∉ classes ∨ k = rootClass →
    σ.inClass k ownField = none

/-- The mapping that a class keeps its macros in. -/
def Value.isDict : Value → Bool
  | .dict _ => true
  | _ => false

theorem Value.any_isDict_iff {found : Option Value} :
    found.any Value.isDict = true ↔ ∃ entries, found = some (.dict entries) := by
  constructor
  · intro h
    cases found with
    | none => cases h
    | some v =>
      rw [Option.any_some] at h
      unfold Value.isDict at h
      split at h
      · exact ⟨_, rfl⟩
      · cases h
  · rintro ⟨entries, rfl⟩
    rfl

instance (σ : State) (classes : List ClassId) : Decidable (Kindred σ classes) :=
  decidable_of_iff
    (rootClass ∈ classes ∧ (∀ c ∈ classes, Inherits σ c) ∧
      ∀ c ∈ classes, (σ.inClass c (Registry.fieldOf c)).any Value.isDict = true)
    ⟨fun ⟨hroot, hi, hr⟩ => ⟨hroot, hi, fun c hc => Value.any_isDict_iff.mp (hr c hc)⟩,
      fun h => ⟨h.root, h.inherits, fun c hc => Value.any_isDict_iff.mpr (h.registry c hc)⟩⟩

instance (σ : State) (classes : List ClassId) : Decidable (Hierarchy σ classes) :=
  decidable_of_iff
    (Kindred σ classes ∧
      ∀ c ∈ classes, ∀ k ∈ σ.lineage c, k ∉ classes ∨ k = rootClass → σ.inClass k ownField = none)
    ⟨fun ⟨hk, ho⟩ => ⟨hk, ho⟩, fun h => ⟨h.toKindred, h.others⟩⟩

namespace State

@[simp] theorem lineage_putInClass : (σ.putInClass c field v).lineage k = σ.lineage k := by
  cases c <;> rfl

@[simp] theorem metaclass_putInClass : (σ.putInClass c field v).metaclass k = σ.metaclass k := by
  cases c <;> rfl

theorem inClass_putInClass_self {id : String} :
    (σ.putInClass (.defined id) field v).inClass (.defined id) field = some v := by
  simp [putInClass, inClass, setAttribute, setSpace, space, Table.get?_put_self]

theorem inClass_putInClass_of_ne (h : k ≠ c ∨ name ≠ field) :
    (σ.putInClass c field v).inClass k name = σ.inClass k name := by
  cases c with
  | builtin owner => rfl
  | defined id =>
    cases k with
    | builtin owner => rfl
    | defined id' =>
      simp only [putInClass, inClass, setAttribute, setSpace, space]
      by_cases hi : id = id'
      · subst hi
        have hn : field ≠ name := by
          rcases h with h | h
          · exact absurd rfl h
          · exact Ne.symm h
        rw [Table.get?_put_self, Option.getD_some, Table.get?_put_of_ne _ _ hn]
      · rw [Table.get?_put_of_ne _ _ hi]

/-- When the registry of a class changes, so does nothing of another class and nothing else. -/
theorem inClass_putInClass_elsewhere (hc : c ∈ classes)
    (h : k ∉ classes ∨ name ≠ ownField ∧ name ≠ sharedField) :
    (σ.putInClass c (Registry.fieldOf c) v).inClass k name = σ.inClass k name := by
  refine inClass_putInClass_of_ne ?_
  rcases h with hk | ⟨ho, hs⟩
  · exact .inl fun he => hk (he ▸ hc)
  · rw [Registry.fieldOf]
    split
    · exact .inr hs
    · exact .inr ho

/-- A class finds under every other name what it found. -/
theorem inLineage_putInClass_of_ne (h : name ≠ field) :
    (σ.putInClass c field v).inLineage k name = σ.inLineage k name := by
  have hd : ∀ d, (σ.putInClass c field v).inClass d name = σ.inClass d name := fun d =>
    inClass_putInClass_of_ne (.inr h)
  rw [inLineage, inLineage, lineage_putInClass]
  simp only [hd]

end State

theorem fieldOf_ne_name (hn : n ∈ Native.inherited) : n.name ≠ Registry.fieldOf c := by
  rw [Registry.fieldOf]
  split <;> revert n <;> decide

theorem Inherits.putInClass (h : Inherits σ c) :
    Inherits (σ.putInClass k (Registry.fieldOf k) v) c where
  metaclass := by rw [State.metaclass_putInClass, h.metaclass]
  found n hn := by
    rw [State.inLineage_putInClass_of_ne (fieldOf_ne_name hn)]
    exact h.found n hn
  above n hn := by
    rw [State.inLineage_putInClass_of_ne (fieldOf_ne_name hn)]
    exact h.above n hn

theorem registered_putInClass_self {id : String} :
    (σ.putInClass (.defined id) (Registry.fieldOf (.defined id)) (.dict entries)).registered
      (.defined id) = entries := by
  rw [State.registered, State.inClass_putInClass_self]

theorem registered_putInClass_of_ne (h : k ≠ c) :
    (σ.putInClass c field v).registered k = σ.registered k := by
  rw [State.registered, State.registered, State.inClass_putInClass_of_ne (.inl h)]

namespace Kindred

theorem exists_id (h : Kindred σ classes) (hc : c ∈ classes) : ∃ id, c = .defined id := by
  cases c with
  | defined id => exact ⟨id, rfl⟩
  | builtin name =>
    have hm := (h.inherits _ hc).metaclass
    cases hm

theorem not_mem_rootMetaclass (h : Kindred σ classes) : rootMetaclass ∉ classes := by
  intro hm
  have hi := h.inherits _ hm
  have hfound := hi.found .find (by decide)
  rw [hi.above .find (by decide)] at hfound
  cases hfound

theorem putInClass (h : Kindred σ classes) (hk : k ∈ classes) :
    Kindred (σ.putInClass k (Registry.fieldOf k) (.dict entries)) classes where
  root := h.root
  inherits c hc := (h.inherits c hc).putInClass
  registry c hc := by
    by_cases he : c = k
    · obtain ⟨id, rfl⟩ := h.exists_id hk
      rw [he]
      exact ⟨entries, State.inClass_putInClass_self⟩
    · rw [State.inClass_putInClass_of_ne (.inl he)]
      exact h.registry c hc

end Kindred

namespace Hierarchy

theorem putInClass (h : Hierarchy σ classes) (hk : k ∈ classes) :
    Hierarchy (σ.putInClass k (Registry.fieldOf k) (.dict entries)) classes where
  toKindred := h.toKindred.putInClass hk
  others c hc d hd hn := by
    rw [State.lineage_putInClass] at hd
    have ho : d ≠ k ∨ ownField ≠ Registry.fieldOf k := by
      by_cases he : d = k
      · subst he
        obtain rfl := hn.resolve_left (not_not_intro hk)
        exact .inr (by decide)
      · exact .inl he
    rw [State.inClass_putInClass_of_ne ho]
    exact h.others c hc d hd hn

theorem isKeptBy (h : Hierarchy σ classes) (hc : c ∈ classes) (hk : k ∈ σ.lineage c) :
    Registry.IsKeptBy σ k := by
  by_cases hn : k ∉ classes ∨ k = rootClass
  · exact .inl (h.others c hc k hk hn)
  · obtain ⟨hm, hr⟩ := not_or.mp hn
    obtain ⟨entries, he⟩ := h.registry k (Decidable.not_not.mp hm)
    rw [Registry.fieldOf, if_neg hr] at he
    exact .inr ⟨hr, entries, he⟩

/-- What a name means on a class of the hierarchy. -/
theorem find?_eq (h : Hierarchy σ classes) (hc : c ∈ classes) (name : String) :
    Registry.find? σ c (.str name) =
      .ok (((σ.lineage c).findSome? (Registry.own? σ name)).or
        (Table.get? (σ.registered rootClass) (Value.str name))) := by
  obtain ⟨entries, he⟩ := h.registry rootClass h.root
  exact Registry.find?_eq (fun k hk => h.isKeptBy hc hk) he

end Hierarchy
end MacroStubs
