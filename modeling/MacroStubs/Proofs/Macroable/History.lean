import MacroStubs.Proofs.Macroable.Hierarchy

/-! # Histories of registries

What was registered on which class and when a class was emptied, the latest first. A registry holds
under each name what was registered last since it was emptied last.
-/

namespace MacroStubs

inductive RegistryEvent where
  | registered (c : ClassId) (name : String) (entry : Value)
  | emptied (c : ClassId)

/-- What happened, the latest first. What is registered for all is registered on the root class. -/
abbrev History := List RegistryEvent

namespace History

/-- The macro registered last on a class under a name, unless the class was emptied since. -/
def last? (c : ClassId) (name : String) : History → Option Value
  | [] => none
  | .registered d other entry :: earlier =>
    if d = c ∧ other = name then some entry else last? c name earlier
  | .emptied d :: earlier => if d = c then none else last? c name earlier

/-- The macro that a name means on a class with a lineage: that of the first class of the lineage,
the root class apart, that still has one, and otherwise that of all. -/
def meaning? (lineage : List ClassId) (name : String) (h : History) : Option Value :=
  ((lineage.filter (· ≠ rootClass)).findSome? fun c => h.last? c name).or (h.last? rootClass name)

end History

variable {σ : State} {c k : ClassId} {name other : String} {v : Value} {h : History}
variable {entries : List (Value × Value)} {classes : List ClassId}

/-- The registries of classes hold what a history says, under texts alone. -/
structure Records (σ : State) (classes : List ClassId) (h : History) : Prop where
  kindred : Kindred σ classes
  texts : ∀ c ∈ classes, ∀ e ∈ σ.registered c, ∃ name, e.1 = .str name
  inside : ∀ c ∈ classes, ∀ name, Table.get? (σ.registered c) (Value.str name) = h.last? c name
  outside : ∀ c ∉ classes, ∀ name, h.last? c name = none

/-- The registries of a hierarchy hold what its history says. -/
structure Remembers (σ : State) (classes : List ClassId) (h : History) : Prop
    extends Records σ classes h where
  hierarchy : Hierarchy σ classes

/-- Members for which nothing is found can be left out. -/
theorem findSome?_of_filter {α β : Type} {f g : α → Option β} {p : α → Bool} {xs : List α}
    (hf : ∀ x ∈ xs, f x = if p x then g x else none) :
    xs.findSome? f = (xs.filter p).findSome? g := by
  induction xs with
  | nil => rfl
  | cons x rest ih =>
    have ih := ih fun y hy => hf y (List.mem_cons_of_mem _ hy)
    rw [List.findSome?_cons, hf x List.mem_cons_self, ih]
    cases hp : p x with
    | true => rw [List.filter_cons_of_pos hp, List.findSome?_cons, if_pos rfl]
    | false => rw [List.filter_cons_of_neg (by simp [hp]), if_neg Bool.false_ne_true]

namespace Remembers

theorem own?_eq (hr : Remembers σ classes h) (hc : c ∈ classes) (hk : k ∈ σ.lineage c) :
    Registry.own? σ name k = if decide (k ≠ rootClass) then h.last? k name else none := by
  rw [Registry.own?]
  by_cases hroot : k = rootClass
  · simp [hroot]
  · rw [if_neg hroot, if_pos (decide_eq_true hroot)]
    by_cases hm : k ∈ classes
    · exact hr.inside k hm name
    · have hn := hr.hierarchy.others c hc k hk (.inl hm)
      rw [Registry.registered_of_none hroot hn, hr.outside k hm name]
      rfl

/-- What a class finds is what the history says. -/
theorem find?_eq (hr : Remembers σ classes h) (hc : c ∈ classes) (name : String) :
    Registry.find? σ c (.str name) = .ok (h.meaning? (σ.lineage c) name) := by
  have ho : (σ.lineage c).findSome? (Registry.own? σ name) = _ :=
    findSome?_of_filter fun k hk => hr.own?_eq hc hk
  rw [hr.hierarchy.find?_eq hc, hr.inside rootClass hr.hierarchy.root, ho, History.meaning?]

end Remembers

namespace Records

theorem register (hr : Records σ classes h) (hc : c ∈ classes)
    (he : σ.inClass c (Registry.fieldOf c) = some (.dict entries)) :
    Records (σ.putInClass c (Registry.fieldOf c) (.dict (Table.put entries (.str name) v)))
      classes (.registered c name v :: h) := by
  obtain ⟨id, rfl⟩ := hr.kindred.exists_id hc
  have hs : σ.registered (.defined id) = entries := by rw [State.registered, he]
  refine ⟨hr.kindred.putInClass hc, fun d hd e hm => ?_, fun d hd other => ?_,
    fun d hd other => ?_⟩
  · by_cases hdc : d = .defined id
    · subst hdc
      rw [registered_putInClass_self] at hm
      rcases Table.mem_put_str hm with hm | hm
      · exact hr.texts _ hc e (hs ▸ hm)
      · exact ⟨name, hm⟩
    · rw [registered_putInClass_of_ne hdc] at hm
      exact hr.texts d hd e hm
  · by_cases hdc : d = .defined id
    · subst hdc
      rw [registered_putInClass_self, History.last?]
      by_cases hn : name = other
      · subst hn
        rw [Table.get?_put_str, if_pos ⟨rfl, rfl⟩]
      · rw [Table.get?_put_str_of_ne hn, if_neg (fun hp => hn hp.2), ← hs, hr.inside _ hc]
    · rw [registered_putInClass_of_ne hdc, History.last?, if_neg (fun hp => hdc hp.1.symm),
        hr.inside d hd]
  · have hdc : d ≠ .defined id := fun hdc => hd (hdc ▸ hc)
    rw [History.last?, if_neg (fun hp => hdc hp.1.symm), hr.outside d hd]

theorem empty (hr : Records σ classes h) (hc : c ∈ classes) :
    Records (σ.putInClass c (Registry.fieldOf c) (.dict [])) classes (.emptied c :: h) := by
  obtain ⟨id, rfl⟩ := hr.kindred.exists_id hc
  refine ⟨hr.kindred.putInClass hc, fun d hd e hm => ?_, fun d hd other => ?_,
    fun d hd other => ?_⟩
  · by_cases hdc : d = .defined id
    · subst hdc
      rw [registered_putInClass_self] at hm
      cases hm
    · rw [registered_putInClass_of_ne hdc] at hm
      exact hr.texts d hd e hm
  · by_cases hdc : d = .defined id
    · subst hdc
      rw [registered_putInClass_self, History.last?, if_pos rfl]
      rfl
    · rw [registered_putInClass_of_ne hdc, History.last?, if_neg (Ne.symm hdc), hr.inside d hd]
  · have hdc : d ≠ .defined id := fun hdc => hd (hdc ▸ hc)
    rw [History.last?, if_neg (Ne.symm hdc), hr.outside d hd]

/-- Registries that are empty remember nothing. -/
theorem of_empty (hk : Kindred σ classes) (he : ∀ c ∈ classes, σ.registered c = []) :
    Records σ classes [] where
  kindred := hk
  texts c hc e hm := by
    rw [he c hc] at hm
    cases hm
  inside c hc name := by rw [he c hc]; rfl
  outside c _ name := rfl

end Records

theorem Remembers.of_empty (hσ : Hierarchy σ classes) (he : ∀ c ∈ classes, σ.registered c = []) :
    Remembers σ classes [] :=
  ⟨.of_empty hσ.toKindred he, hσ⟩

end MacroStubs
