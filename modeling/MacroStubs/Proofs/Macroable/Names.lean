import MacroStubs.Proofs.Macroable.Runs

/-! # The order of a registry

A registry holds its macros in the order in which their names came first since it was emptied: one that is
registered again keeps its place. So a history tells all of a registry, the order included.
-/

namespace MacroStubs

variable {σ σ' : State} {c d : ClassId} {name : String} {v : Value} {h h' : History}
variable {entries : List (Value × Value)} {classes : List ClassId} {texts : List String}

namespace History

/-- The names that were registered on a class since it was emptied last, in the order in which each came
first. -/
def names (c : ClassId) : History → List String
  | [] => []
  | .registered d name _ :: earlier =>
    if d = c ∧ name ∉ names c earlier then names c earlier ++ [name] else names c earlier
  | .emptied d :: earlier => if d = c then [] else names c earlier

/-- The names and what was registered last under each. -/
def listed (h : History) (c : ClassId) : List (String × Value) :=
  (h.names c).filterMap fun name => (h.last? c name).map (name, ·)

theorem nodup_names (c : ClassId) (h : History) : (h.names c).Nodup := by
  induction h with
  | nil => exact .nil
  | cons event earlier ih =>
    cases event with
    | registered d name v =>
      rw [names]
      split
      · rename_i hd
        rw [List.nodup_append]
        refine ⟨ih, List.nodup_cons.mpr ⟨List.not_mem_nil, .nil⟩, fun other ho e he => ?_⟩
        rintro rfl
        exact hd.2 (List.mem_singleton.mp he ▸ ho)
      · exact ih
    | emptied d =>
      rw [names]
      split
      · exact .nil
      · exact ih

/-- A name is listed exactly if something is registered under it. -/
theorem mem_names_iff : name ∈ h.names c ↔ (h.last? c name).isSome = true := by
  induction h with
  | nil => simp [names, last?]
  | cons event earlier ih =>
    cases event with
    | registered d other v =>
      rw [names, last?]
      by_cases hd : d = c
      · by_cases hn : other = name
        · subst hn
          by_cases hm : other ∈ names c earlier <;> simp [hd, hm]
        · by_cases hm : other ∈ names c earlier <;> simp [hd, hm, hn, Ne.symm hn, ih]
      · simp [hd, ih]
    | emptied d =>
      rw [names, last?]
      split
      · simp
      · exact ih

end History

/-- A table under texts is told by its keys and by what it holds under each. -/
theorem Table.eq_filterMap_keys (hk : Table.keys entries = texts.map Value.str) (hn : texts.Nodup) :
    entries = texts.filterMap fun name =>
      (Table.get? entries (Value.str name)).map (Value.str name, ·) := by
  induction entries generalizing texts with
  | nil =>
    obtain rfl : texts = [] := by simpa [Table.keys] using hk.symm
    rfl
  | cons e rest ih =>
    obtain ⟨key, v⟩ := e
    cases texts with
    | nil => cases hk
    | cons first later =>
      obtain ⟨hfirst, hlater⟩ := List.cons.inj hk
      obtain rfl : key = .str first := hfirst
      obtain ⟨hnot, hn⟩ := List.nodup_cons.mp hn
      have hself : Table.get? ((Value.str first, v) :: rest) (Value.str first) = some v := by
        rw [Table.get?_cons, if_pos (beq_str.mpr rfl)]
      have hothers : ∀ name ∈ later, (Table.get? ((Value.str first, v) :: rest) (Value.str name)).map
          (Value.str name, ·) = (Table.get? rest (Value.str name)).map (Value.str name, ·) := by
        intro name hname
        have hne : ¬ (Value.str first == Value.str name) = true := by
          intro he
          exact hnot (Value.str.inj (beq_str.mp he) ▸ hname)
        rw [Table.get?_cons, if_neg hne]
      rw [List.filterMap_cons, hself, Option.map_some, List.filterMap_congr hothers, ← ih hlater hn]

/-- The registries of the classes list their names in the order of their history. -/
def Lists (σ : State) (classes : List ClassId) (h : History) : Prop :=
  ∀ c ∈ classes, Table.keys (σ.registered c) = (h.names c).map Value.str

theorem Lists.of_empty (he : ∀ c ∈ classes, σ.registered c = []) : Lists σ classes [] := by
  intro c hc
  rw [he c hc]
  rfl

/-- A name that is registered stays where it is or comes last. -/
theorem Lists.register (hl : Lists σ classes h) (hr : Records σ classes h) (hd : d ∈ classes)
    (he : σ.inClass d (Registry.fieldOf d) = some (.dict entries)) :
    Lists (σ.putInClass d (Registry.fieldOf d) (.dict (Table.put entries (.str name) v))) classes
      (.registered d name v :: h) := by
  obtain ⟨id, rfl⟩ := hr.kindred.exists_id hd
  intro c hc
  rw [History.names]
  by_cases hcd : c = .defined id
  · subst hcd
    have hkeys := hl _ hc
    have hhas : Table.has entries (Value.str name) = true ↔ name ∈ h.names (.defined id) := by
      rw [Table.has_eq_isSome_get?, History.mem_names_iff, ← hr.inside _ hc, State.registered, he]
    rw [State.registered, he] at hkeys
    rw [registered_putInClass_self, Table.keys_put, hkeys]
    by_cases hm : name ∈ h.names (.defined id)
    · rw [if_pos (hhas.mpr hm), if_neg fun hp => hp.2 hm]
    · rw [if_neg fun hp => hm (hhas.mp hp), if_pos ⟨rfl, hm⟩, List.map_append]
      rfl
  · rw [registered_putInClass_of_ne hcd, if_neg fun hp => hcd hp.1.symm]
    exact hl c hc

theorem Lists.empty (hl : Lists σ classes h) (hr : Records σ classes h) (hd : d ∈ classes) :
    Lists (σ.putInClass d (Registry.fieldOf d) (.dict [])) classes (.emptied d :: h) := by
  obtain ⟨id, rfl⟩ := hr.kindred.exists_id hd
  intro c hc
  rw [History.names]
  by_cases hcd : c = .defined id
  · subst hcd
    rw [registered_putInClass_self, if_pos rfl]
    rfl
  · rw [registered_putInClass_of_ne hcd, if_neg (Ne.symm hcd)]
    exact hl c hc

/-- Changes of one registry at a time keep the order of all. -/
theorem Steps.lists (hs : Steps classes σ h σ' h') (hr : Records σ classes h)
    (hl : Lists σ classes h) : Lists σ' classes h' := by
  induction hs with
  | refl => exact hl
  | register hs hc he name v ih => exact ih.register (hs.records hr) hc he
  | empty hs hc ih => exact ih.empty (hs.records hr) hc

/-- A registry is what its history tells. -/
theorem Lists.registered_eq (hl : Lists σ classes h) (hr : Records σ classes h) (hc : c ∈ classes) :
    σ.registered c = (h.listed c).map fun e => (.str e.1, e.2) := by
  have heq := Table.eq_filterMap_keys (hl c hc) (History.nodup_names c h)
  have hinside : (fun name => (Table.get? (σ.registered c) (Value.str name)).map (Value.str name, ·)) =
      fun name => ((h.last? c name).map (name, ·)).map fun e => (Value.str e.1, e.2) := by
    funext name
    rw [hr.inside c hc, Option.map_map]
    rfl
  rw [hinside] at heq
  rw [heq, History.listed, List.map_filterMap]

end MacroStubs
