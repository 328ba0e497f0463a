import MacroStubs.Proofs.Lookup.Ordinary

/-! # Registries by name

A registry that is a dictionary, asked for a name. What a name means on a class is the macro of the
first registry along its lineage that holds the name, and otherwise that of the root class.
-/

namespace MacroStubs

variable {σ : State} {c : ClassId} {name other : String} {v k : Value}
variable {entries : List (Value × Value)}

/-- Nothing but the same text equals a text. -/
theorem beq_str : (k == .str name) = true ↔ k = .str name := by
  have hs : (k == Value.str name) = Value.same k (.str name) := rfl
  rw [hs]
  constructor
  · intro h
    cases k <;> simp_all [Value.same, Value.identity?, Value.sameNumber, Value.int?, Value.parts?]
  · rintro rfl
    simp [Value.same]

/-- Nothing but the same class equals a class. -/
theorem beq_cls : (k == .cls c) = true ↔ k = .cls c := by
  have hs : (k == Value.cls c) = Value.same k (.cls c) := rfl
  rw [hs]
  constructor
  · intro h
    cases k <;> simp_all [Value.same, Value.identity?, Value.sameNumber, Value.int?, Value.parts?]
  · rintro rfl
    simp [Value.same]

namespace Table

theorem get?_put_str : get? (put entries (Value.str name) v) (Value.str name) = some v := by
  induction entries with
  | nil => rw [put, get?_cons, if_pos (beq_str.mpr rfl)]
  | cons e entries ih =>
    rw [put]
    split
    · rename_i h
      rw [get?_cons, if_pos h]
    · rename_i h
      rw [get?_cons, if_neg h, ih]

/-- What a table holds after a text was put in it held before or stands under that text. -/
theorem mem_put_str {e : Value × Value} (h : e ∈ put entries (Value.str name) v) :
    e ∈ entries ∨ e.1 = .str name := by
  induction entries with
  | nil => exact .inr (by rw [List.mem_singleton.mp h])
  | cons d entries ih =>
    rw [put] at h
    split at h
    · rename_i hd
      rcases List.mem_cons.mp h with rfl | h
      · exact .inr (beq_str.mp hd)
      · exact .inl (List.mem_cons_of_mem _ h)
    · rcases List.mem_cons.mp h with rfl | h
      · exact .inl List.mem_cons_self
      · exact (ih h).imp_left (List.mem_cons_of_mem _)

theorem get?_put_str_of_ne (hn : name ≠ other) :
    get? (put entries (Value.str name) v) (Value.str other) = get? entries (Value.str other) := by
  have hs : ¬ (Value.str name == Value.str other) = true := by
    intro h
    exact hn (Value.str.inj (beq_str.mp h))
  induction entries with
  | nil =>
    rw [put, get?_cons, if_neg hs]
  | cons e entries ih =>
    rw [put]
    split
    · rename_i h
      have he : ¬ (e.1 == Value.str other) = true := by rwa [beq_str.mp h]
      rw [get?_cons, get?_cons, if_neg he, if_neg he]
    · rw [get?_cons, get?_cons, ih]

end Table

namespace Value

theorem requireKey_str : requireKey σ.classing (.str name) = .ok () := rfl

theorem holds_dict_str :
    (dict entries).holds σ.classing (.str name) =
      .ok (Table.get? entries (Value.str name)).isSome := by
  rw [holds, requireKey_str, ← Table.has_eq_isSome_get?]
  rfl

theorem item_dict_str (h : Table.get? entries (Value.str name) = some v) :
    (dict entries).item σ.classing (.str name) = .ok v := by
  rw [item, requireKey_str, h]
  rfl

end Value

/-- What a class has registered itself; the root class has what is registered for all. -/
def State.registered (σ : State) (c : ClassId) : List (Value × Value) :=
  match σ.inClass c (Registry.fieldOf c) with
  | some (.dict entries) => entries
  | _ => []

namespace Registry

/-- A class of a lineage has no registry there or a dictionary; the root class has none there. -/
def IsKeptBy (σ : State) (c : ClassId) : Prop :=
  σ.inClass c ownField = none ∨
    c ≠ rootClass ∧ ∃ entries, σ.inClass c ownField = some (.dict entries)

theorem registered_of_own (hc : c ≠ rootClass)
    (h : σ.inClass c ownField = some (.dict entries)) : σ.registered c = entries := by
  rw [State.registered, fieldOf, if_neg hc, h]

theorem registered_of_shared (h : σ.inClass rootClass sharedField = some (.dict entries)) :
    σ.registered rootClass = entries := by
  rw [State.registered, fieldOf, if_pos rfl, h]

theorem registered_of_none (hc : c ≠ rootClass) (h : σ.inClass c ownField = none) :
    σ.registered c = [] := by
  rw [State.registered, fieldOf, if_neg hc, h]

/-- The macro that a class below the root class has registered itself under a name. -/
def own? (σ : State) (name : String) (c : ClassId) : Option Value :=
  if c = rootClass then none else Table.get? (σ.registered c) (Value.str name)

theorem firstHolding_eq {lineage : List ClassId} (h : ∀ k ∈ lineage, IsKeptBy σ k) :
    firstHolding σ (.str name) lineage = .ok (lineage.findSome? (own? σ name)) := by
  induction lineage with
  | nil => rfl
  | cons c rest ih =>
    have ih := ih fun k hk => h k (List.mem_cons_of_mem _ hk)
    rw [firstHolding, List.findSome?_cons, own?]
    rcases h c List.mem_cons_self with hn | ⟨hc, entries, he⟩
    · by_cases hc : c = rootClass
      · rw [hn, if_pos hc]
        exact ih
      · rw [hn, if_neg hc, registered_of_none hc hn]
        exact ih
    · have hp : σ.payload (.dict entries) = .dict entries := rfl
      rw [he, if_neg hc, registered_of_own hc he]
      dsimp only
      rw [hp, Value.holds_dict_str]
      cases hg : Table.get? entries (Value.str name) with
      | none => exact ih
      | some v =>
        rw [Value.item_dict_str hg]
        rfl

/-- A class has a macro of that name itself. -/
def Keeps (σ : State) (name : String) (v : Value) (c : ClassId) : Prop :=
  ∃ entries, σ.inClass c ownField = some (.dict entries) ∧
    Table.get? entries (Value.str name) = some v

/-- A class has no macro of that name itself. -/
def Lacks (σ : State) (name : String) (c : ClassId) : Prop :=
  σ.inClass c ownField = none ∨
    ∃ entries, σ.inClass c ownField = some (.dict entries) ∧
      Table.get? entries (Value.str name) = none

/-- The first class with a macro of a name decides. -/
theorem firstHolding_of_first {before after : List ClassId} (hb : ∀ k ∈ before, Lacks σ name k)
    (hc : Keeps σ name v c) :
    firstHolding σ (.str name) (before ++ c :: after) = .ok (some v) := by
  have hp : ∀ entries, σ.payload (.dict entries) = .dict entries := fun _ => rfl
  induction before with
  | nil =>
    obtain ⟨entries, he, hg⟩ := hc
    rw [List.nil_append, firstHolding, he]
    dsimp only
    rw [hp, Value.holds_dict_str, hg, Value.item_dict_str hg]
    rfl
  | cons k rest ih =>
    have ih := ih fun d hd => hb d (List.mem_cons_of_mem _ hd)
    rw [List.cons_append, firstHolding]
    rcases hb k List.mem_cons_self with hn | ⟨entries, he, hg⟩
    · rw [hn]
      exact ih
    · rw [he]
      dsimp only
      rw [hp, Value.holds_dict_str, hg]
      exact ih

/-- What a name means among the macros of all. -/
theorem shared?_eq (h : σ.inClass rootClass sharedField = some (.dict entries)) :
    shared? σ (.str name) = .ok (Table.get? (σ.registered rootClass) (Value.str name)) := by
  rw [shared?, h, registered_of_shared h]
  rfl

/-- What a name means on a class: the macro of the first class of the lineage that has one, or the
one of all. -/
theorem find?_eq (h : ∀ k ∈ σ.lineage c, IsKeptBy σ k)
    (hs : σ.inClass rootClass sharedField = some (.dict entries)) :
    find? σ c (.str name) = .ok (((σ.lineage c).findSome? (own? σ name)).or
      (Table.get? (σ.registered rootClass) (Value.str name))) := by
  rw [find?, firstHolding_eq h, shared?_eq hs]
  cases (σ.lineage c).findSome? (own? σ name) <;> rfl

end Registry
end MacroStubs
