import MacroStubs.Proofs.Macroable.Hierarchy
import MacroStubs.World.Build

/-! # Growing hierarchies

A class that is added below the classes of a hierarchy belongs to it and starts with an empty
registry of its own. The root class alone is a hierarchy, so every world that is built class by
class has one.
-/

namespace MacroStubs

theorem findSome?_congr {α β : Type} {f g : α → Option β} {xs : List α}
    (h : ∀ x ∈ xs, f x = g x) : xs.findSome? f = xs.findSome? g := by
  induction xs with
  | nil => rfl
  | cons x xs ih =>
    rw [List.findSome?_cons, List.findSome?_cons, h x List.mem_cons_self,
      ih fun y hy => h y (List.mem_cons_of_mem _ hy)]

namespace Table

variable {κ α : Type} [BEq κ] {t : Table κ α} {k k' : κ}

theorem get?_erase_eq_none (h : get? t k = none) : get? (erase t k') k = none := by
  induction t with
  | nil => rfl
  | cons e t ih =>
    rw [get?_cons] at h
    split at h
    · cases h
    · rename_i he
      rw [erase, List.filter_cons]
      split
      · rw [get?_cons, if_neg he]
        exact ih h
      · exact ih h

variable [LawfulBEq κ]

theorem get?_ofList_eq_none {pairs : List (κ × α)} (h : k ∉ pairs.map (·.1)) :
    get? (ofList pairs) k = none := by
  rw [ofList]
  have ht : get? ([] : Table κ α) k = none := rfl
  generalize ([] : Table κ α) = t at ht
  induction pairs generalizing t with
  | nil => exact ht
  | cons e pairs ih =>
    rw [List.map_cons, List.mem_cons, not_or] at h
    exact ih h.2 _ (by rw [get?_put_of_ne _ _ (Ne.symm h.1), ht])

theorem get?_map {f : κ → α → α} :
    get? (t.map fun e => (e.1, f e.1 e.2)) k = (get? t k).map (f k) := by
  induction t with
  | nil => rfl
  | cons e t ih =>
    rw [List.map_cons, get?_cons, get?_cons, ih]
    split
    · rename_i he
      rw [eq_of_beq he]
      rfl
    · rfl

end Table

/-- The state in which a class has been put down. -/
def State.withClass (σ : State) (id : String) (info : ClassInfo) (space : Namespace)
    (traits : Table String Namespace) : State :=
  { σ with
    classes := σ.classes.put id info
    spaces := σ.spaces.put id space
    traits }

namespace State

variable {σ : State} {id : String} {info : ClassInfo} {space : Namespace} {k : ClassId}
variable {traits : Table String Namespace} {name : String}

theorem inClass_withClass_self :
    (σ.withClass id info space traits).inClass (.defined id) name = Table.get? space name := by
  simp [withClass, inClass, State.space, Table.get?_put_self]

theorem lineage_withClass_self :
    (σ.withClass id info space traits).lineage (.defined id) = info.lineage := by
  simp [withClass, lineage, Table.get?_put_self]

theorem metaclass_withClass_self :
    (σ.withClass id info space traits).metaclass (.defined id) = info.metaclass := by
  simp [withClass, metaclass, Table.get?_put_self]

theorem inClass_withClass_of_ne (h : .defined id ≠ k) :
    (σ.withClass id info space traits).inClass k name = σ.inClass k name := by
  cases k with
  | builtin owner => rfl
  | defined id' =>
    have hi : id ≠ id' := fun he => h (he ▸ rfl)
    rw [withClass, inClass, State.space, Table.get?_put_of_ne _ _ hi]
    rfl

theorem lineage_withClass_of_ne (h : .defined id ≠ k) :
    (σ.withClass id info space traits).lineage k = σ.lineage k := by
  cases k with
  | builtin owner => rfl
  | defined id' =>
    have hi : id ≠ id' := fun he => h (he ▸ rfl)
    rw [withClass, lineage, Table.get?_put_of_ne _ _ hi]
    rfl

theorem metaclass_withClass_of_ne (h : .defined id ≠ k) :
    (σ.withClass id info space traits).metaclass k = σ.metaclass k := by
  cases k with
  | builtin owner => rfl
  | defined id' =>
    have hi : id ≠ id' := fun he => h (he ▸ rfl)
    rw [withClass, metaclass, Table.get?_put_of_ne _ _ hi]
    rfl

/-- A class finds what it found if the new class is none of its ancestors. -/
theorem inLineage_withClass_of_not_mem (h : .defined id ≠ k) (hl : .defined id ∉ σ.lineage k) :
    (σ.withClass id info space traits).inLineage k name = σ.inLineage k name := by
  rw [inLineage, inLineage, lineage_withClass_of_ne h]
  exact findSome?_congr fun d hd => inClass_withClass_of_ne fun he => hl (he ▸ hd)

end State

namespace Site

variable {space : Namespace} {c base : ClassId} {name module : String} {doc : Value}
variable {attributes : List (String × Value)}

theorem get?_putNew_of_ne {e : String × Value} (h : e.1 ≠ name) :
    Table.get? (spaceOf.putNew space e) name = Table.get? space name := by
  rw [spaceOf.putNew]
  split
  · rfl
  · exact Table.get?_put_of_ne _ _ h

theorem get?_foldl_putNew {told : Namespace} (h : ∀ e ∈ told, e.1 ≠ name) :
    Table.get? (told.foldl spaceOf.putNew space) name = Table.get? space name := by
  induction told generalizing space with
  | nil => rfl
  | cons e told ih =>
    rw [List.foldl_cons, ih fun d hd => h d (List.mem_cons_of_mem _ hd)]
    exact get?_putNew_of_ne (h e List.mem_cons_self)

/-- The names under which a class keeps something that it does not bind. -/
def given : List String := ["__module__", "__doc__", "__dict__", "__weakref__", "__hash__"]

theorem mem_given_of_membersOver {e : String × Value} (h : e ∈ membersOver c base) :
    e.1 ∈ given := by
  rw [membersOver.eq_def] at h
  split at h
  · cases h
  · rw [List.mem_singleton.mp h]
    simp [given]
  · simp only [ownMembers, List.map_cons, List.map_nil, List.mem_cons, List.not_mem_nil,
      or_false] at h
    rcases h with rfl | rfl <;> simp [given]

/-- A class keeps nothing under a name that it does not bind. -/
theorem get?_spaceOf_eq_none (hn : name ∉ given) (ha : name ∉ attributes.map (·.1)) :
    Table.get? (spaceOf c base module doc attributes) name = none := by
  have hg : ∀ other ∈ given, other ≠ name := fun other ho he => hn (he ▸ ho)
  -- what the class binds, then what is done to it, each step by itself
  have hbound : ∀ told : Namespace, (∀ e ∈ told, e.1 ∈ given) →
      Table.get? (Table.ofList ((("__module__", .str module) :: told) ++ attributes)) name =
        none := by
    intro told ht
    refine Table.get?_ofList_eq_none ?_
    simp only [List.cons_append, List.map_cons, List.map_append, List.mem_cons, List.mem_append,
      not_or]
    refine ⟨Ne.symm (hg "__module__" (by decide)), fun hm => ?_, ha⟩
    obtain ⟨e, he, hm⟩ := List.mem_map.mp hm
    exact hg e.1 (ht e he) hm
  have hkept : ∀ space : Namespace, Table.get? space name = none →
      Table.get? ((Table.erase space "__qualname__").map fun e => (e.1, asKept e.1 e.2)) name =
        none := by
    intro space hs
    rw [Table.get?_map, Table.get?_erase_eq_none hs]
    rfl
  have hall : ∀ space : Namespace, Table.get? space name = none → Table.get?
      (spaceOf.putNew ((membersOver c base).foldl spaceOf.putNew space) ("__doc__", .null)) name =
        none := by
    intro space hs
    rw [get?_putNew_of_ne (hg "__doc__" (by decide)),
      get?_foldl_putNew fun e he => hg e.1 (mem_given_of_membersOver he), hs]
  have hhashed : ∀ space : Namespace, Table.get? space name = none →
      Table.get? (if Table.has space "__eq__" then spaceOf.putNew space ("__hash__", .null)
        else space) name = none := by
    intro space hs
    split
    · rw [get?_putNew_of_ne (hg "__hash__" (by decide)), hs]
    · exact hs
  refine hhashed _ (hall _ (hkept _ (hbound _ ?_)))
  split
  · nofun
  · simp [given]

theorem nameProperties_eq (attributes : List (String × Value)) (σ : State) :
    ∃ traits, nameProperties attributes σ = { σ with traits } := by
  rw [nameProperties]
  induction attributes generalizing σ with
  | nil => exact ⟨σ.traits, rfl⟩
  | cons e attributes ih =>
    rw [List.foldl_cons]
    split
    · exact ih _
    · exact ih _

variable {s : Site} {id qualname : String} {bases lineage : List ClassId}

/-- Adding a class puts down what it is and what it keeps, and names its properties. -/
theorem addClass_state (name qualname module : String) (doc : Value)
    (attributes : List (String × Value)) (hb : bases ≠ [])
    (hl : Lineage.ofBases? (.defined id) bases (bases.map s.state.lineage) = some lineage)
    (hm : ∃ b ∈ bases, s.state.metaclass b = rootMetaclass)
    (hs : (lineage.tail.findSome? fun k => s.state.inClass k Native.subclassed.name) =
      some (.classMethod none (.native .subclassed))) :
    ∃ info base traits, (s.addClass id name qualname module bases doc attributes).state =
        s.state.withClass id info
          ((spaceOf (.defined id) base module doc attributes).put ownField (.dict [])) traits ∧
      info.lineage = lineage ∧ info.metaclass = rootMetaclass := by
  have he : bases.isEmpty = false := by simpa using hb
  have hmeta : (bases.any fun b => s.state.metaclass b == rootMetaclass) = true := by
    obtain ⟨b, hb, hr⟩ := hm
    exact List.any_eq_true.mpr ⟨b, hb, by simp [hr]⟩
  rw [addClass]
  simp only [he, hl, hmeta, hs, if_true, Option.getD_some, Bool.false_eq_true, if_false]
  obtain ⟨traits, ht⟩ := nameProperties_eq attributes _
  exact ⟨_, _, traits, ht, rfl, rfl⟩

end Site

/-- A class that can be added below the classes of a hierarchy. It has the lineage that its bases
give, along which the functions of the root class are found, it is new, and it binds no name of
these functions. -/
structure IsBelow (σ : State) (classes : List ClassId) (id : String) (bases : List ClassId)
    (attributes : List (String × Value)) (ancestors : List ClassId) : Prop where
  lineage : Lineage.ofBases? (.defined id) bases (bases.map σ.lineage) =
    some (.defined id :: ancestors)
  base : ∃ b ∈ bases, b ∈ classes
  found : ∀ n ∈ Native.subclassed :: Native.inherited,
    (ancestors.findSome? fun k => σ.inClass k n.name) = some (.classMethod none (.native n))
  ordinary : ∀ k ∈ ancestors, k ∉ classes ∨ k = rootClass → σ.inClass k ownField = none
  fresh : .defined id ∉ ancestors
  unknown : ∀ k ∈ rootMetaclass :: classes, .defined id ≠ k ∧ .defined id ∉ σ.lineage k
  free : ∀ n ∈ Native.inherited, n.name ∉ attributes.map (·.1)

namespace Hierarchy

variable {σ : State} {classes bases ancestors : List ClassId} {id : String} {info : ClassInfo}
variable {space : Namespace} {traits : Table String Namespace} {attributes : List (String × Value)}

/-- What the classes of a hierarchy find they find beside a new class, and so does that class. -/
theorem found_withClass (h : Hierarchy σ classes)
    (hb : IsBelow σ classes id bases attributes ancestors)
    (hl : info.lineage = .defined id :: ancestors)
    (hfree : ∀ n ∈ Native.inherited, Table.get? space n.name = none) :
    ∀ c ∈ .defined id :: classes, ∀ n ∈ Native.inherited,
      (σ.withClass id info space traits).inLineage c n.name =
        some (.classMethod none (.native n)) := by
  intro c hc n hn
  rcases List.mem_cons.mp hc with rfl | hc
  · have hold : ∀ k ∈ ancestors, (σ.withClass id info space traits).inClass k n.name =
        σ.inClass k n.name := fun k hk =>
      State.inClass_withClass_of_ne fun he => hb.fresh (he ▸ hk)
    rw [State.inLineage, State.lineage_withClass_self, hl, List.findSome?_cons,
      State.inClass_withClass_self, hfree n hn]
    exact (findSome?_congr hold).trans (hb.found n (List.mem_cons_of_mem _ hn))
  · obtain ⟨hne, hold⟩ := hb.unknown c (List.mem_cons_of_mem _ hc)
    rw [State.inLineage_withClass_of_not_mem hne hold]
    exact (h.inherits c hc).found n hn

theorem withClass (h : Hierarchy σ classes) (hb : IsBelow σ classes id bases attributes ancestors)
    (hl : info.lineage = .defined id :: ancestors) (hm : info.metaclass = rootMetaclass)
    (hown : Table.get? space ownField = some (.dict []))
    (hfree : ∀ n ∈ Native.inherited, Table.get? space n.name = none) :
    Hierarchy (σ.withClass id info space traits) (.defined id :: classes) where
  root := List.mem_cons_of_mem _ h.root
  inherits c hc :=
    { metaclass := by
        rcases List.mem_cons.mp hc with rfl | hc
        · rw [State.metaclass_withClass_self, hm]
        · rw [State.metaclass_withClass_of_ne (hb.unknown c (List.mem_cons_of_mem _ hc)).1]
          exact (h.inherits c hc).metaclass
      found := h.found_withClass hb hl hfree c hc
      above := by
        intro n hn
        obtain ⟨hne, hold⟩ := hb.unknown rootMetaclass List.mem_cons_self
        rw [State.inLineage_withClass_of_not_mem hne hold]
        exact (h.inherits rootClass h.root).above n hn }
  registry c hc := by
    rcases List.mem_cons.mp hc with rfl | hc
    · have hr : .defined id ≠ rootClass := (hb.unknown _ (List.mem_cons_of_mem _ h.root)).1
      refine ⟨[], ?_⟩
      rw [Registry.fieldOf, if_neg hr, State.inClass_withClass_self, hown]
    · obtain ⟨entries, he⟩ := h.registry c hc
      refine ⟨entries, ?_⟩
      rw [State.inClass_withClass_of_ne (hb.unknown c (List.mem_cons_of_mem _ hc)).1, he]
  others c hc k hk hn := by
    have hr : .defined id ≠ rootClass := (hb.unknown _ (List.mem_cons_of_mem _ h.root)).1
    have hne : .defined id ≠ k := by
      rintro rfl
      rcases hn with hn | hn
      · exact hn List.mem_cons_self
      · exact hr hn
    have hn : k ∉ classes ∨ k = rootClass := hn.imp_left fun hn hk => hn (List.mem_cons_of_mem _ hk)
    rw [State.inClass_withClass_of_ne hne]
    rcases List.mem_cons.mp hc with rfl | hc
    · rw [State.lineage_withClass_self, hl] at hk
      exact hb.ordinary k ((List.mem_cons.mp hk).resolve_left (Ne.symm hne)) hn
    · rw [State.lineage_withClass_of_ne (hb.unknown c (List.mem_cons_of_mem _ hc)).1] at hk
      exact h.others c hc k hk hn

end Hierarchy

/-- Adding a class below those of a hierarchy. -/
theorem Hierarchy.addClass_state {s : Site} {classes bases ancestors : List ClassId} {id : String}
    {attributes : List (String × Value)} (h : Hierarchy s.state classes)
    (hb : IsBelow s.state classes id bases attributes ancestors) (name qualname module : String)
    (doc : Value) :
    ∃ info base traits, (s.addClass id name qualname module bases doc attributes).state =
        s.state.withClass id info
          ((Site.spaceOf (.defined id) base module doc attributes).put ownField (.dict [])) traits ∧
      info.lineage = .defined id :: ancestors ∧ info.metaclass = rootMetaclass := by
  obtain ⟨b, hbases, hbelow⟩ := hb.base
  exact Site.addClass_state name qualname module doc attributes (List.ne_nil_of_mem hbases)
    hb.lineage ⟨b, hbases, (h.inherits b hbelow).metaclass⟩ (hb.found _ List.mem_cons_self)

/-- Worlds that are built from the root class alone by adding classes below those that are there. -/
inductive Grown : Site → List ClassId → Prop
  | root (host : Host) : Grown (Site.empty host) [rootClass]
  | addClass {s : Site} {classes bases ancestors : List ClassId} {id : String}
      {attributes : List (String × Value)} (name qualname module : String) (doc : Value)
      (hs : Grown s classes) (hb : IsBelow s.state classes id bases attributes ancestors) :
      Grown (s.addClass id name qualname module bases doc attributes) (.defined id :: classes)

namespace Grown

variable {s : Site} {classes : List ClassId}

theorem hierarchy_root (host : Host) : Hierarchy (Site.empty host).state [rootClass] where
  root := List.mem_cons_self
  inherits c hc := by
    obtain rfl := List.mem_singleton.mp hc
    refine ⟨rfl, fun n hn => ?_, fun n hn => ?_⟩ <;>
      cases n <;> first | rfl | exact absurd hn (by decide)
  registry c hc := by
    obtain rfl := List.mem_singleton.mp hc
    exact ⟨[], rfl⟩
  others c hc k hk hn := by
    obtain rfl := List.mem_singleton.mp hc
    have hk : k ∈ [rootClass, objectClass] := hk
    simp only [List.mem_cons, List.not_mem_nil, or_false] at hk
    rcases hk with rfl | rfl <;> rfl

/-- The classes that were added form a hierarchy whose registries are empty. -/
theorem hierarchy (hs : Grown s classes) :
    Hierarchy s.state classes ∧ ∀ c ∈ classes, s.state.registered c = [] := by
  induction hs with
  | root host => exact ⟨hierarchy_root host, fun c hc => by rw [List.mem_singleton.mp hc]; rfl⟩
  | @addClass s classes bases ancestors id attributes name qualname module doc hs hb ih =>
    obtain ⟨h, he⟩ := ih
    obtain ⟨info, base, traits, hstate, hl, hm⟩ := h.addClass_state hb name qualname module doc
    have hfree : ∀ n ∈ Native.inherited, Table.get? ((Site.spaceOf (.defined id) base module doc
        attributes).put ownField (.dict [])) n.name = none := by
      intro n hn
      have hne : ownField ≠ n.name := by
        revert n
        decide
      rw [Table.get?_put_of_ne _ _ hne]
      exact Site.get?_spaceOf_eq_none (by revert n; decide) (hb.free n hn)
    rw [hstate]
    refine ⟨h.withClass hb hl hm (Table.get?_put_self ..) hfree, fun c hc => ?_⟩
    rcases List.mem_cons.mp hc with rfl | hc
    · have hr : .defined id ≠ rootClass := (hb.unknown _ (List.mem_cons_of_mem _ h.root)).1
      rw [State.registered, Registry.fieldOf, if_neg hr, State.inClass_withClass_self,
        Table.get?_put_self]
    · have hne := (hb.unknown c (List.mem_cons_of_mem _ hc)).1
      rw [State.registered, State.inClass_withClass_of_ne hne]
      exact he c hc

end Grown
end MacroStubs
