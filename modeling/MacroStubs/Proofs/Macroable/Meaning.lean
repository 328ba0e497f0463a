import MacroStubs.Proofs.Collection.Family

/-! # Meanings of names

What a name means on a class, told by the registries alone, and what becomes of it when macros are put
into the registry of one class: on that class the new macros come first, a class that does not descend
from it finds what it found.
-/

namespace MacroStubs

variable {σ σ' : State} {c d k : ClassId} {name field : String} {v : Value} {classes : List ClassId}
variable {macros : List (String × Value)}

namespace Table

section

variable {κ α : Type} [BEq κ] {t : Table κ α} {key : κ} {a b : α}

/-- Nothing changes if what is put is there already. -/
theorem put_of_get? (h : get? t key = some a) : put t key a = t := by
  induction t with
  | nil => cases h
  | cons e t ih =>
    rw [get?_cons] at h
    rw [put]
    split at h
    · rename_i he
      obtain rfl := Option.some.inj h
      rw [if_pos he]
    · rename_i he
      rw [if_neg he, ih h]

variable [LawfulBEq κ]

/-- What is put last stays. -/
theorem put_put : put (put t key a) key b = put t key b := by
  induction t with
  | nil => simp [put]
  | cons e t ih =>
    by_cases he : (e.1 == key) = true
    · simp [put, he]
    · simp [put, he, ih]

theorem get?_eq_none_iff : get? t key = none ↔ key ∉ t.map (·.1) := by
  induction t with
  | nil => simp [get?]
  | cons e t ih =>
    rw [get?_cons, List.map_cons, List.mem_cons, not_or, ← ih]
    by_cases he : e.1 = key
    · simp [he]
    · simp [he, Ne.symm he]

/-- Under distinct keys each entry is found. -/
theorem get?_of_mem {e : κ × α} (hn : (t.map (·.1)).Nodup) (he : e ∈ t) :
    get? t e.1 = some e.2 := by
  induction t with
  | nil => cases he
  | cons d t ih =>
    obtain ⟨hd, hn⟩ := List.nodup_cons.mp hn
    rw [get?_cons]
    rcases List.mem_cons.mp he with rfl | he
    · simp
    · have hne : d.1 ≠ e.1 := fun h => hd (List.mem_map.mpr ⟨e, he, h.symm⟩)
      rw [if_neg (by simpa using hne)]
      exact ih hn he

end

/-- The entries with these put in under their names, one after the other. -/
def putAll (entries : List (Value × Value)) (macros : List (String × Value)) :
    List (Value × Value) :=
  macros.foldl (fun t e => put t (Value.str e.1) e.2) entries

variable {entries : List (Value × Value)}

theorem get?_putAll (hn : (macros.map (·.1)).Nodup) :
    get? (putAll entries macros) (Value.str name) =
      (get? macros name).or (get? entries (Value.str name)) := by
  induction macros generalizing entries with
  | nil => rfl
  | cons e rest ih =>
    obtain ⟨he, hn⟩ := List.nodup_cons.mp hn
    rw [get?_cons]
    refine (ih hn).trans ?_
    by_cases hname : e.1 = name
    · subst hname
      rw [get?_eq_none_iff.mpr he, get?_put_str, if_pos (beq_self_eq_true _)]
      rfl
    · rw [get?_put_str_of_ne hname, if_neg (by simpa using hname)]

theorem putAll_of_held (h : ∀ e ∈ macros, get? entries (Value.str e.1) = some e.2) :
    putAll entries macros = entries := by
  induction macros with
  | nil => rfl
  | cons e rest ih =>
    obtain ⟨he, hrest⟩ := List.forall_mem_cons.mp h
    rw [putAll, List.foldl_cons, put_of_get? he]
    exact ih hrest

end Table

namespace State

/-- What a name means on a class: the macro of the first class of the lineage that has one, the root class
apart, or the one of all. -/
def meaning? (σ : State) (c : ClassId) (name : String) : Option Value :=
  ((σ.lineage c).findSome? (Registry.own? σ name)).or
    (Table.get? (σ.registered rootClass) (Value.str name))

/-- The state in which macros have been put into the registry of a class. -/
def withMacros (σ : State) (c : ClassId) (macros : List (String × Value)) : State :=
  σ.putInClass c (Registry.fieldOf c) (.dict (Table.putAll (σ.registered c) macros))

theorem putInClass_of_held (h : σ.inClass c field = some v) : σ.putInClass c field v = σ := by
  cases c with
  | builtin owner => rfl
  | defined id =>
    have hs : Table.get? (σ.space id) field = some v := h
    have hspace : Table.get? σ.spaces id = some (σ.space id) := by
      rw [State.space] at hs ⊢
      cases hg : Table.get? σ.spaces id with
      | none =>
        rw [hg] at hs
        cases hs
      | some space => rfl
    rw [putInClass, setAttribute, Table.put_of_get? hs, setSpace, Table.put_of_get? hspace]

theorem putInClass_putInClass {v' : Value} :
    (σ.putInClass c field v).putInClass c field v' = σ.putInClass c field v' := by
  cases c with
  | builtin owner => rfl
  | defined id =>
    simp only [putInClass, setAttribute, setSpace, State.space, Table.get?_put_self, Option.getD_some,
      Table.put_put]

theorem lineage_withMacros : (σ.withMacros c macros).lineage d = σ.lineage d := lineage_putInClass

theorem isMacroable_withMacros : (σ.withMacros c macros).isMacroable d = σ.isMacroable d := by
  rw [isMacroable, isMacroable, lineage_withMacros]

theorem registered_withMacros_self (h : Hierarchy σ classes) (hc : c ∈ classes) :
    (σ.withMacros c macros).registered c = Table.putAll (σ.registered c) macros := by
  obtain ⟨id, rfl⟩ := h.exists_id hc
  exact registered_putInClass_self

/-- Putting in macros one after the other. -/
theorem withMacros_withMacros {later : List (String × Value)} (h : Hierarchy σ classes)
    (hc : c ∈ classes) :
    (σ.withMacros c macros).withMacros c later = σ.withMacros c (macros ++ later) := by
  rw [withMacros, registered_withMacros_self h hc, withMacros, putInClass_putInClass, withMacros,
    Table.putAll, Table.putAll, Table.putAll, List.foldl_append]

/-- Nothing changes if all of the macros are there already. -/
theorem withMacros_of_held (h : Hierarchy σ classes) (hc : c ∈ classes)
    (hm : ∀ e ∈ macros, Table.get? (σ.registered c) (Value.str e.1) = some e.2) :
    σ.withMacros c macros = σ := by
  obtain ⟨entries, he⟩ := h.registry c hc
  have hr : σ.registered c = entries := by rw [registered, he]
  rw [withMacros, Table.putAll_of_held hm, hr]
  exact putInClass_of_held he

/-- What a class has registered under a name when macros have been put in. -/
theorem get?_registered_withMacros (h : Hierarchy σ classes) (hc : c ∈ classes)
    (hn : (macros.map (·.1)).Nodup) (k : ClassId) (name : String) :
    Table.get? ((σ.withMacros c macros).registered k) (Value.str name) =
      (if k = c then Table.get? macros name else none).or
        (Table.get? (σ.registered k) (Value.str name)) := by
  by_cases hk : k = c
  · subst hk
    rw [registered_withMacros_self h hc, Table.get?_putAll hn, if_pos rfl]
  · rw [withMacros, registered_putInClass_of_ne hk, if_neg hk]
    rfl

theorem own?_withMacros (h : Hierarchy σ classes) (hc : c ∈ classes) (hn : (macros.map (·.1)).Nodup)
    (k : ClassId) (name : String) :
    Registry.own? (σ.withMacros c macros) name k =
      (if k = c ∧ k ≠ rootClass then Table.get? macros name else none).or
        (Registry.own? σ name k) := by
  rw [Registry.own?, Registry.own?]
  by_cases hroot : k = rootClass
  · simp [hroot]
  · simp only [hroot, if_false, get?_registered_withMacros h hc hn, not_false_iff, ne_eq, and_true]

/-- A name that is none of those that were put in means on every class what it meant. -/
theorem meaning?_withMacros_of_get?_eq_none (h : Hierarchy σ classes) (hc : c ∈ classes)
    (hn : (macros.map (·.1)).Nodup) (hname : Table.get? macros name = none) (d : ClassId) :
    (σ.withMacros c macros).meaning? d name = σ.meaning? d name := by
  have hown : Registry.own? (σ.withMacros c macros) name = Registry.own? σ name := by
    funext k
    rw [own?_withMacros h hc hn, hname, ite_self]
    rfl
  rw [meaning?, meaning?, lineage_withMacros, hown, get?_registered_withMacros h hc hn, hname,
    ite_self]
  rfl

end State

namespace Family

/-- What a class finds under a name. -/
theorem find?_eq (hf : Family σ classes) (hc : c ∈ classes) (name : String) :
    Registry.find? σ c (.str name) = .ok (σ.meaning? c name) :=
  hf.hierarchy.find?_eq hc name

/-- In the lineage of the root class nothing stands in front of what is registered for all. -/
theorem findSome?_own?_root (hf : Family σ classes) (name : String) :
    (σ.lineage rootClass).findSome? (Registry.own? σ name) = none := by
  refine List.findSome?_eq_none_iff.mpr fun k hk => ?_
  rw [Registry.own?]
  split
  · rfl
  · rename_i hne
    have hm : k ∉ classes := fun hm => hne (hf.alone k hk hm)
    have hnone := hf.hierarchy.others rootClass hf.hierarchy.root k hk (.inl hm)
    rw [Registry.registered_of_none hne hnone]
    rfl

theorem meaning?_root (hf : Family σ classes) (name : String) :
    σ.meaning? rootClass name = Table.get? (σ.registered rootClass) (Value.str name) := by
  rw [State.meaning?, hf.findSome?_own?_root]
  rfl

/-- What was put into the registry of a class comes first there. -/
theorem meaning?_withMacros_self (hf : Family σ classes) (hc : c ∈ classes)
    (hn : (macros.map (·.1)).Nodup) (name : String) :
    (σ.withMacros c macros).meaning? c name =
      (Table.get? macros name).or (σ.meaning? c name) := by
  have h := hf.hierarchy
  cases hname : Table.get? macros name with
  | none => exact State.meaning?_withMacros_of_get?_eq_none h hc hn hname c
  | some v =>
    rw [State.meaning?, State.lineage_withMacros]
    by_cases hroot : c = rootClass
    · subst hroot
      have hown : Registry.own? (σ.withMacros rootClass macros) name = Registry.own? σ name := by
        funext k
        rw [State.own?_withMacros h hc hn, if_neg fun hk => hk.2 hk.1]
        rfl
      rw [hown, hf.findSome?_own?_root, State.get?_registered_withMacros h hc hn, if_pos rfl, hname]
      rfl
    · obtain ⟨ancestors, hl⟩ := hf.first c hc
      rw [hl, List.findSome?_cons, State.own?_withMacros h hc hn, if_pos ⟨rfl, hroot⟩, hname]
      rfl

end Family

namespace State

variable {r : Reach}

/-- What containers need to know of classes is told by other names. -/
theorem classing_putInClass (h : "__hash__" ≠ field) :
    (σ.putInClass c field v).classing = σ.classing := by
  have hkeys : ∀ k, (σ.putInClass c field v).inLineage k "__hash__" = σ.inLineage k "__hash__" :=
    fun k => inLineage_putInClass_of_ne h
  unfold classing
  simp only [hkeys]
  cases c <;> rfl

theorem payload_putInClass : (σ.putInClass c field v).payload = σ.payload := by
  cases c <;> rfl

end State

namespace Registry

theorem firstHolding_congr {key : Value} {lineage : List ClassId}
    (hown : ∀ k ∈ lineage, σ'.inClass k ownField = σ.inClass k ownField)
    (hpayload : σ'.payload = σ.payload) (hclassing : σ'.classing = σ.classing) :
    firstHolding σ' key lineage = firstHolding σ key lineage := by
  induction lineage with
  | nil => rfl
  | cons k rest ih =>
    obtain ⟨hk, hrest⟩ := List.forall_mem_cons.mp hown
    rw [firstHolding, firstHolding, hk, ih hrest, hpayload, hclassing]

theorem hash_ne_fieldOf : "__hash__" ≠ fieldOf c := by
  rw [fieldOf]
  split <;> decide

/-- What is registered on a class of the lineage is found where nothing of it has changed. -/
theorem firstHolding_putInClass {key : Value} (h : c = rootClass ∨ c ∉ σ.lineage d) :
    firstHolding (σ.putInClass c (fieldOf c) v) key (σ.lineage d) =
      firstHolding σ key (σ.lineage d) := by
  refine firstHolding_congr (fun k hk => State.inClass_putInClass_of_ne ?_) State.payload_putInClass
    (State.classing_putInClass hash_ne_fieldOf)
  rcases h with rfl | h
  · exact .inr (by decide)
  · exact .inl fun he => h (he ▸ hk)

/-- A class that does not descend from another one finds what it found when the registry of that one
changes. -/
theorem find?_putInClass {key : Value} (hr : c ≠ rootClass) (h : c ∉ σ.lineage d) :
    find? (σ.putInClass c (fieldOf c) v) d key = find? σ d key := by
  have hs : (σ.putInClass c (fieldOf c) v).inClass rootClass sharedField =
      σ.inClass rootClass sharedField := State.inClass_putInClass_of_ne (.inl (Ne.symm hr))
  have hl : (State.putInClass σ c (fieldOf c) v).typeLabel = σ.typeLabel := by
    cases c <;> rfl
  rw [find?, find?, State.lineage_putInClass, firstHolding_putInClass (.inr h), shared?, shared?, hs,
    State.classing_putInClass hash_ne_fieldOf, hl]

end Registry
end MacroStubs
