import MacroStubs.Proofs.Macroable.Growth
import MacroStubs.Proofs.Macroable.Runs

/-! # Families

A hierarchy of all macroable classes, which its classes keep while macros are registered and removed.
The classes that are added to a world one below the other are a family. What a class tells of itself, it
tells also where other classes that it descends from keep something in the place of registries.
-/

namespace MacroStubs

variable {w : World} {σ σ' : State} {c k : ClassId} {name : String} {classes : List ClassId}
variable {h : History}

/-- A hierarchy with all macroable classes that its classes descend from. The class of these classes
keeps no registry and tells names as the class of classes does. -/
structure Family (σ : State) (classes : List ClassId) : Prop where
  hierarchy : Hierarchy σ classes
  first : ∀ c ∈ classes, ∃ ancestors, σ.lineage c = c :: ancestors
  macroable : ∀ c ∈ classes, ∀ k ∈ σ.lineage c, k ∈ classes ↔ σ.isMacroable k = true
  alone : ∀ k ∈ σ.lineage rootClass, k ∈ classes → k = rootClass
  above : σ.lineage rootMetaclass = [rootMetaclass, .builtin "type", objectClass]
  free : ∀ name ∈ [ownField, "__name__", "__qualname__"], σ.inClass rootMetaclass name = none

instance (σ : State) (classes : List ClassId) : Decidable (Family σ classes) :=
  decidable_of_iff
    (Hierarchy σ classes ∧ (∀ c ∈ classes, (σ.lineage c).head? = some c) ∧
      (∀ c ∈ classes, ∀ k ∈ σ.lineage c, k ∈ classes ↔ σ.isMacroable k = true) ∧
      (∀ k ∈ σ.lineage rootClass, k ∈ classes → k = rootClass) ∧
      σ.lineage rootMetaclass = [rootMetaclass, .builtin "type", objectClass] ∧
      ∀ name ∈ [ownField, "__name__", "__qualname__"], σ.inClass rootMetaclass name = none)
    ⟨fun ⟨h, hfirst, hm, ha, habove, hfree⟩ =>
        ⟨h, fun c hc => List.head?_eq_some_iff.mp (hfirst c hc), hm, ha, habove, hfree⟩,
      fun h => ⟨h.hierarchy, fun c hc => List.head?_eq_some_iff.mpr (h.first c hc), h.macroable,
        h.alone, h.above, h.free⟩⟩

/-- Kindred classes with the root class as the package has it. Their class keeps no registry and tells
names as the class of classes does. -/
structure Clan (σ : State) (classes : List ClassId) : Prop where
  kindred : Kindred σ classes
  first : ∀ c ∈ classes, ∃ ancestors, σ.lineage c = c :: ancestors
  bare : ∀ k ∈ σ.lineage rootClass, σ.inClass k ownField = none
  above : σ.lineage rootMetaclass = [rootMetaclass, .builtin "type", objectClass]
  free : ∀ name ∈ [ownField, "__name__", "__qualname__"], σ.inClass rootMetaclass name = none

instance (σ : State) (classes : List ClassId) : Decidable (Clan σ classes) :=
  decidable_of_iff
    (Kindred σ classes ∧ (∀ c ∈ classes, (σ.lineage c).head? = some c) ∧
      (∀ k ∈ σ.lineage rootClass, σ.inClass k ownField = none) ∧
      σ.lineage rootMetaclass = [rootMetaclass, .builtin "type", objectClass] ∧
      ∀ name ∈ [ownField, "__name__", "__qualname__"], σ.inClass rootMetaclass name = none)
    ⟨fun ⟨h, hfirst, hbare, habove, hfree⟩ =>
        ⟨h, fun c hc => List.head?_eq_some_iff.mp (hfirst c hc), hbare, habove, hfree⟩,
      fun h => ⟨h.kindred, fun c hc => List.head?_eq_some_iff.mpr (h.first c hc), h.bare, h.above,
        h.free⟩⟩

theorem Kindred.withHost (hσ : Kindred σ classes) (host : Host) :
    Kindred { σ with host } classes where
  root := hσ.root
  inherits c hc :=
    ⟨(hσ.inherits c hc).metaclass, (hσ.inherits c hc).found, (hσ.inherits c hc).above⟩
  registry := hσ.registry

/-- What a class tells as its name, or as the one that says where it was made. -/
def State.title (σ : State) (c : ClassId) (name : String) : String :=
  if name = "__name__" then σ.className c else σ.qualname c

namespace Clan

theorem withHost (hσ : Clan σ classes) (host : Host) : Clan { σ with host } classes :=
  ⟨hσ.kindred.withHost host, hσ.first, hσ.bare, hσ.above, hσ.free⟩

theorem putInClass {entries : List (Value × Value)} (hσ : Clan σ classes) (hc : c ∈ classes) :
    Clan (σ.putInClass c (Registry.fieldOf c) (.dict entries)) classes where
  kindred := hσ.kindred.putInClass hc
  first k hk := by
    rw [State.lineage_putInClass]
    exact hσ.first k hk
  bare k hk := by
    rw [State.lineage_putInClass] at hk
    have hne : k ≠ c ∨ ownField ≠ Registry.fieldOf c := by
      by_cases hroot : c = rootClass
      · subst hroot
        exact .inr (by decide)
      · refine .inl ?_
        rintro rfl
        -- a class above the root class that keeps macros would keep them under the name
        obtain ⟨entries, he⟩ := hσ.kindred.registry k hc
        rw [Registry.fieldOf, if_neg hroot, hσ.bare k hk] at he
        cases he
    rw [State.inClass_putInClass_of_ne hne]
    exact hσ.bare k hk
  above := by
    rw [State.lineage_putInClass]
    exact hσ.above
  free name hn := by
    rw [← hσ.free name hn]
    exact State.inClass_putInClass_elsewhere hc (.inl hσ.kindred.not_mem_rootMetaclass)

/-- What the class of the classes does not keep itself it finds on the class of classes. -/
theorem inLineage_rootMetaclass (hσ : Clan σ classes)
    (hn : name ∈ [ownField, "__name__", "__qualname__"]) :
    σ.inLineage rootMetaclass name =
      (Catalogue.find? "type" name).or (Catalogue.find? "object" name) := by
  rw [State.inLineage, hσ.above, List.findSome?_cons, hσ.free name hn]
  simp only [List.findSome?_cons, List.findSome?_nil, objectClass, State.inClass]
  cases Catalogue.find? "type" name <;> cases Catalogue.find? "object" name <;> rfl

theorem isInstance_cls (hσ : Clan σ classes) (hc : c ∈ classes) :
    σ.isInstance (.cls c) (.builtin "type") = true := by
  rw [State.isInstance, State.classOf, (hσ.kindred.inherits c hc).metaclass, hσ.above]
  rfl

/-- Names of a class are told by the class of classes. -/
theorem read_title (hσ : Clan σ classes) (hc : c ∈ classes)
    (hn : name ∈ ["__name__", "__qualname__"]) (i : Nat) :
    (Reach.within w (i + 1)).read σ (.cls c) name = .ok (.str (σ.title c name)) := by
  have hcases : name = "__name__" ∨ name = "__qualname__" := by simpa using hn
  have habove : σ.inLineage (σ.metaclass c) name = some (.member (.builtin "type") name) := by
    rw [(hσ.kindred.inherits c hc).metaclass,
      hσ.inLineage_rootMetaclass (List.mem_cons_of_mem _ hn)]
    rcases hcases with rfl | rfl <;> rfl
  have hdata : Descriptor.isData σ (.member (.builtin "type") name) = true := by
    rcases hcases with rfl | rfl <;> rfl
  have hinstance := hσ.isInstance_cls hc
  have hget : Descriptor.get (Reach.within w i) σ (.member (.builtin "type") name)
      (some (.cls c)) (.cls (σ.metaclass c)) = .ok (.str (σ.title c name)) := by
    have hthrough : Descriptor.get (Reach.within w i) σ (.member (.builtin "type") name)
        (some (.cls c)) (.cls (σ.metaclass c)) =
          Descriptor.throughObject (Reach.within w i) σ (.builtin "type") name (.cls c) := by
      rcases hcases with rfl | rfl <;> rfl
    rw [hthrough, Descriptor.throughObject, hinstance, if_pos rfl]
    rcases hcases with rfl | rfl <;> rfl
  rw [Reach.read_within]
  exact Attribute.readThrough_of_ordinary ((Attribute.ordinary_of_above habove hdata).trans hget)

end Clan

namespace Family

/-- A family is a clan: no other class keeps anything in the place of registries. -/
theorem clan (hf : Family σ classes) : Clan σ classes where
  kindred := hf.hierarchy.toKindred
  first := hf.first
  bare k hk := by
    refine hf.hierarchy.others rootClass hf.hierarchy.root k hk ?_
    by_cases hm : k ∈ classes
    · exact .inr (hf.alone k hk hm)
    · exact .inl hm
  above := hf.above
  free := hf.free

/-- Calls that register and remove macros leave the family. -/
theorem leaves (hf : Family σ classes) (hl : Leaves σ classes h σ') : Family σ' classes := by
  have hmeta : ∀ name, σ'.inClass rootMetaclass name = σ.inClass rootMetaclass name := fun name =>
    hl.elsewhere _ _ (.inl hf.hierarchy.not_mem_rootMetaclass)
  refine ⟨hl.remembers.hierarchy, ?_, ?_, ?_, ?_, ?_⟩
  · rw [hl.lineage]
    exact hf.first
  · intro c hc k hk
    rw [hl.lineage] at hk
    rw [State.isMacroable, hl.lineage]
    exact hf.macroable c hc k hk
  · rw [hl.lineage]
    exact hf.alone
  · rw [hl.lineage]
    exact hf.above
  · intro name hn
    rw [hmeta]
    exact hf.free name hn

end Family

namespace Lineage

variable {α : Type} [BEq α] [LawfulBEq α] {n : Nat} {lists lineages : List (List α)}
variable {cls : α} {order bases merged : List α}

/-- A merge keeps the order of each list. -/
theorem sublist_of_merge (h : merge n lists = some merged) (ho : order ∈ lists) :
    order.Sublist merged := by
  induction n generalizing lists order merged with
  | zero =>
    rw [merge] at h
    split at h
    · rename_i hempty
      rw [List.isEmpty_iff.mp (List.all_eq_true.mp hempty order ho)]
      exact List.nil_sublist merged
    · cases h
  | succ n ih =>
    rw [merge] at h
    split at h
    · rename_i hempty
      rw [List.isEmpty_iff.mp (List.all_eq_true.mp hempty order ho)]
      exact List.nil_sublist merged
    · split at h
      · cases h
      · rename_i head _
        obtain ⟨later, hl, rfl⟩ := Option.map_eq_some_iff.mp h
        have hrest := ih hl (List.mem_map_of_mem ho)
        cases order with
        | nil => exact List.nil_sublist _
        | cons first rest =>
          dsimp only at hrest
          by_cases hf : first = head
          · subst hf
            rw [beq_self_eq_true, if_pos rfl] at hrest
            exact hrest.cons_cons first
          · rw [beq_eq_false_iff_ne.mpr hf, if_neg Bool.false_ne_true] at hrest
            exact hrest.cons head

theorem sublist_of_ofBases? (h : ofBases? cls bases lineages = some merged)
    (ho : order ∈ lineages) : order.Sublist merged := by
  rw [ofBases?] at h
  obtain ⟨ancestors, ha, rfl⟩ := Option.map_eq_some_iff.mp h
  exact (sublist_of_merge ha (List.mem_append_left _ ho)).cons cls

end Lineage

namespace Grown

variable {s : Site}

theorem lineage_root (host : Host) (id : String) :
    (Site.empty host).state.lineage (.defined id) =
      if id = rootName then [rootClass, objectClass]
      else if id = metaName then [rootMetaclass, .builtin "type", objectClass]
      else [.defined id, objectClass] := by
  simp only [State.lineage, Site.empty, Table.get?_cons, beq_iff_eq, eq_comm (b := id)]
  split
  · rfl
  · split <;> rfl

theorem isMacroable_root_iff (host : Host) :
    (Site.empty host).state.isMacroable k = true ↔ k ∈ [rootClass] := by
  rw [State.isMacroable, List.contains_iff_mem, List.mem_singleton]
  cases k with
  | builtin name =>
    simp only [State.lineage, Catalogue.lineage]
    split <;> simp [rootClass]
  | defined id =>
    rw [lineage_root]
    split
    · simp [*, rootClass]
    · split <;> simp [*, rootClass, rootMetaclass, objectClass, metaName, eq_comm]

/-- The macroable classes of a world that is built class by class are those that were added. -/
theorem isMacroable_iff (hs : Grown s classes) : s.state.isMacroable k = true ↔ k ∈ classes := by
  induction hs generalizing k with
  | root host => exact isMacroable_root_iff host
  | @addClass s classes bases ancestors id attributes name qualname module doc hs hb ih =>
    obtain ⟨info, base, traits, hstate, hl, -⟩ := hs.hierarchy.1.addClass_state hb name qualname module doc
    rw [hstate, State.isMacroable]
    by_cases he : .defined id = k
    · subst he
      rw [State.lineage_withClass_self, hl]
      refine iff_of_true ?_ List.mem_cons_self
      obtain ⟨b, hbases, hbelow⟩ := hb.base
      have hroot : rootClass ∈ s.state.lineage b := List.contains_iff_mem.mp (ih.mpr hbelow)
      have hkept := Lineage.sublist_of_ofBases? hb.lineage (List.mem_map_of_mem hbases)
      exact List.contains_iff_mem.mpr (hkept.subset hroot)
    · rw [State.lineage_withClass_of_ne he, List.mem_cons, or_iff_right (Ne.symm he)]
      exact ih

theorem lineage_eq_cons (hs : Grown s classes) (hc : c ∈ classes) :
    ∃ ancestors, s.state.lineage c = c :: ancestors := by
  induction hs with
  | root host =>
    obtain rfl := List.mem_singleton.mp hc
    exact ⟨_, rfl⟩
  | @addClass s classes bases ancestors id attributes name qualname module doc hs hb ih =>
    obtain ⟨info, base, traits, hstate, hl, -⟩ :=
      hs.hierarchy.1.addClass_state hb name qualname module doc
    rw [hstate]
    rcases List.mem_cons.mp hc with rfl | hc
    · exact ⟨ancestors, by rw [State.lineage_withClass_self, hl]⟩
    · rw [State.lineage_withClass_of_ne (hb.unknown c (List.mem_cons_of_mem _ hc)).1]
      exact ih hc

/-- The root class and the class of macroable classes stay as they are. -/
theorem root_unchanged (hs : Grown s classes) :
    s.state.lineage rootClass = [rootClass, objectClass] ∧
      s.state.lineage rootMetaclass = [rootMetaclass, .builtin "type", objectClass] ∧
        ∀ name, s.state.inClass rootMetaclass name = Table.get? Site.metaSpace name := by
  induction hs with
  | root host => exact ⟨rfl, rfl, fun _ => rfl⟩
  | @addClass s classes bases ancestors id attributes name qualname module doc hs hb ih =>
    obtain ⟨info, base, traits, hstate, -⟩ :=
      hs.hierarchy.1.addClass_state hb name qualname module doc
    have hroot := (hb.unknown rootClass (List.mem_cons_of_mem _ hs.hierarchy.1.root)).1
    have hmeta := (hb.unknown rootMetaclass List.mem_cons_self).1
    rw [hstate, State.lineage_withClass_of_ne hroot, State.lineage_withClass_of_ne hmeta]
    refine ⟨ih.1, ih.2.1, fun name => ?_⟩
    rw [State.inClass_withClass_of_ne hmeta]
    exact ih.2.2 name

/-- The classes that were added are a family. -/
theorem family (hs : Grown s classes) : Family s.state classes := by
  obtain ⟨hroot, hmeta, hspace⟩ := hs.root_unchanged
  refine ⟨hs.hierarchy.1, fun c hc => hs.lineage_eq_cons hc, fun c _ k _ => hs.isMacroable_iff.symm,
    ?_, hmeta, ?_⟩
  · rw [hroot]
    intro k hk hm
    obtain ⟨id, rfl⟩ := hs.hierarchy.1.exists_id hm
    simpa [objectClass] using hk
  · intro name hn
    rw [hspace]
    revert name
    decide

end Grown

end MacroStubs
