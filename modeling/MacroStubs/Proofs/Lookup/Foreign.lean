import MacroStubs.Macro.Extraction
import MacroStubs.Proofs.Lookup.Access

/-! # Ordinary classes under the name of the registries

The name under which macroable classes keep their macros is an ordinary attribute of any other class that
they descend from, and a name is sought there as well. What is no mapping is asked all the same. Some
values let the name pass, others raise, and then so does everything that seeks the name.
-/

namespace MacroStubs

variable {w : World} {σ : State} {c k : ClassId} {v obj : Value} {name : String} {f : Failure}
variable {lineage : List ClassId}

/-- A value that can be asked for a text and does not hold it. Mappings are taken not to. -/
def Value.isPassedBy (name : String) : Value → Bool
  | dict _ | mapping _ | mappingproxy _ | cyclic _ | range .. => true
  | list xs | tuple xs | set xs | frozenset xs => !xs.any (same (.str name))
  | str s => !holdsText name s
  | _ => false

/-- Seeking a text in a value lets it pass, or raises: that the value cannot be asked, or that it has no
item under a text. -/
inductive Value.Meets (σ : State) (name : String) (v : Value) : Prop
  | passed (hp : v.isPassedBy name = true) (hv : v.holds σ.classing (.str name) = .ok false)
  | refused {f : Failure} (hp : v.isPassedBy name = false) (hf : f.kind = "TypeError")
      (hv : v.holds σ.classing (.str name) = .error f)
  | misled {f : Failure} (hp : v.isPassedBy name = false) (hf : f.kind = "TypeError")
      (hv : v.holds σ.classing (.str name) = .ok true) (hi : v.item σ.classing (.str name) = .error f)

namespace Value

variable {entries : List (Value × Value)} {items : List Value}

theorem meets_of_has (hp : v.isPassedBy name = true)
    (hv : v.holds σ.classing (.str name) = .ok (Table.has entries (Value.str name)))
    (hlacks : Table.get? entries (Value.str name) = none) : v.Meets σ name := by
  refine .passed hp (hv.trans ?_)
  rw [Table.has_eq_isSome_get?, hlacks]
  rfl

theorem meets_of_any {f : Failure} (hp : v.isPassedBy name = !items.any (same (.str name)))
    (hv : v.holds σ.classing (.str name) = .ok (items.any (same (.str name))))
    (hi : v.item σ.classing (.str name) = .error f) (hf : f.kind = "TypeError") :
    v.Meets σ name := by
  cases hany : items.any (same (.str name)) with
  | false =>
    rw [hany] at hp hv
    exact .passed hp hv
  | true =>
    rw [hany] at hp hv
    exact .misled hp hf hv hi

/-- Whatever a value is, it lets a text pass or raises, unless it is a mapping that has it. -/
theorem meets (hv : ∀ entries, v.entries? = some entries →
    Table.get? entries (Value.str name) = none) : v.Meets σ name := by
  cases v with
  | dict es => exact meets_of_has rfl rfl (hv es rfl)
  | mapping es => exact meets_of_has rfl rfl (hv es rfl)
  | mappingproxy es => exact meets_of_has rfl rfl (hv es rfl)
  | list xs => exact meets_of_any rfl rfl rfl rfl
  | tuple xs => exact meets_of_any rfl rfl rfl rfl
  | set xs => exact meets_of_any rfl rfl rfl rfl
  | frozenset xs => exact meets_of_any rfl rfl rfl rfl
  | str s =>
    have hheld : (str s).holds σ.classing (.str name) = .ok (holdsText name s) := rfl
    have hpassed : (str s).isPassedBy name = !holdsText name s := rfl
    cases hh : holdsText name s with
    | false =>
      rw [hh] at hheld hpassed
      exact .passed hpassed hheld
    | true =>
      rw [hh] at hheld hpassed
      exact .misled hpassed rfl hheld rfl
  | cyclic shape =>
    refine .passed rfl ?_
    cases shape with
    | dict => simp [holds, requireKey_str, same, identity?, sameNumber, int?, parts?]
    | _ => rfl
  | range start stop step => exact .passed rfl rfl
  | _ => exact .refused rfl rfl rfl

end Value

namespace Registry

/-- A class that keeps nothing under the name of the registries, or a value that lets a name pass. -/
def IsPassedBy (σ : State) (name : String) (k : ClassId) : Prop :=
  ∀ v, σ.inClass k ownField = some v → (σ.payload v).isPassedBy name = true

/-- A class that lets the name pass leaves it to the rest of the lineage. -/
theorem firstHolding_cons_of_passed
    (hmeets : ∀ v, σ.inClass k ownField = some v → (σ.payload v).Meets σ name)
    (hp : IsPassedBy σ name k) :
    firstHolding σ (.str name) (k :: lineage) = firstHolding σ (.str name) lineage := by
  rw [firstHolding]
  cases hv : σ.inClass k ownField with
  | none => rfl
  | some v =>
    cases hmeets v hv with
    | passed _ hholds =>
      dsimp only
      rw [hholds]
      rfl
    | refused hnot _ _ | misled hnot _ _ _ =>
      exact absurd (hp v hv) (by rw [hnot]; exact Bool.false_ne_true)

variable (hmeets : ∀ k ∈ lineage, ∀ v, σ.inClass k ownField = some v → (σ.payload v).Meets σ name)

include hmeets

theorem firstHolding_of_passed (hp : ∀ k ∈ lineage, IsPassedBy σ name k) :
    firstHolding σ (.str name) lineage = .ok none := by
  induction lineage with
  | nil => rfl
  | cons k rest ih =>
    obtain ⟨hk, hrest⟩ := List.forall_mem_cons.mp hmeets
    obtain ⟨hpk, hprest⟩ := List.forall_mem_cons.mp hp
    exact (firstHolding_cons_of_passed hk hpk).trans (ih hrest hprest)

/-- The first value that does not let the name pass raises. -/
theorem firstHolding_of_not_passed (hp : ∃ k ∈ lineage, ¬ IsPassedBy σ name k) :
    ∃ f, firstHolding σ (.str name) lineage = .error f ∧ f.kind = "TypeError" := by
  induction lineage with
  | nil =>
    obtain ⟨k, hk, -⟩ := hp
    cases hk
  | cons k rest ih =>
    obtain ⟨hk, hrest⟩ := List.forall_mem_cons.mp hmeets
    by_cases hpk : IsPassedBy σ name k
    · rw [firstHolding_cons_of_passed hk hpk]
      obtain ⟨d, hd, hnot⟩ := hp
      rcases List.mem_cons.mp hd with rfl | hd
      · exact absurd hpk hnot
      · exact ih hrest ⟨d, hd, hnot⟩
    · obtain ⟨v, hv⟩ := not_forall.mp hpk
      obtain ⟨hv, hnot⟩ := Classical.not_imp.mp hv
      rw [firstHolding, hv]
      dsimp only
      cases hk v hv with
      | passed hpassed _ => exact absurd hpassed hnot
      | refused _ hf hholds =>
        rw [hholds]
        exact ⟨_, rfl, hf⟩
      | misled _ hf hholds hitem =>
        rw [hholds]
        dsimp only [bind, Except.bind]
        rw [if_pos rfl, hitem]
        exact ⟨_, rfl, hf⟩

end Registry

/-- A class that leaves unknown names to the root class, and a name that none of the mappings on the way
has, those of ordinary classes included, nor the macros of all. Objects in the place of registries do not
tell what they hold by functions of their own. -/
structure IsUnheld (σ : State) (c : ClassId) (name : String) : Prop where
  answers : Answers σ c
  shared : ∃ entries, σ.inClass rootClass sharedField = some (.dict entries) ∧
    Table.get? entries (Value.str name) = none
  mappings : ∀ k ∈ σ.lineage c, ∀ v, σ.inClass k ownField = some v →
    ∀ entries, (σ.payload v).entries? = some entries → Table.get? entries (Value.str name) = none
  plain : ∀ k ∈ σ.lineage c, ∀ v, σ.inClass k ownField = some v →
    ∀ special ∈ ["__contains__", "__iter__", "__getitem__"],
      Descriptor.definesSpecial σ v special = false

namespace IsUnheld

theorem meets (h : IsUnheld σ c name) :
    ∀ k ∈ σ.lineage c, ∀ v, σ.inClass k ownField = some v → (σ.payload v).Meets σ name :=
  fun k hk v hv => Value.meets (h.mappings k hk v hv)

theorem find?_of_passed (h : IsUnheld σ c name)
    (hp : ∀ k ∈ σ.lineage c, Registry.IsPassedBy σ name k) :
    Registry.find? σ c (.str name) = .ok none := by
  obtain ⟨entries, hs, hnone⟩ := h.shared
  rw [Registry.find?, Registry.firstHolding_of_passed h.meets hp]
  have hshared : Registry.shared? σ (.str name) =
      .ok (Table.get? (σ.registered rootClass) (.str name)) := Registry.shared?_eq hs
  rw [Registry.registered_of_shared hs, hnone] at hshared
  exact hshared

theorem find?_of_not_passed (h : IsUnheld σ c name)
    (hp : ¬ ∀ k ∈ σ.lineage c, Registry.IsPassedBy σ name k) :
    ∃ f, Registry.find? σ c (.str name) = .error f ∧ f.kind = "TypeError" := by
  obtain ⟨f, hf, hkind⟩ := Registry.firstHolding_of_not_passed h.meets (by
    obtain ⟨k, hk⟩ := not_forall.mp hp
    obtain ⟨hk, hnot⟩ := Classical.not_imp.mp hk
    exact ⟨k, hk, hnot⟩)
  refine ⟨f, ?_, hkind⟩
  rw [Registry.find?, hf]
  rfl

end IsUnheld

/-- What seeking a macro raises is raised by reading the name. -/
theorem Inherits.viaMacro_of_error {r : Reach} (hi : Inherits σ c)
    (hname : Text.beginsWith name "__" = false)
    (hf : Registry.find? σ c (.str name) = .error f) :
    Attribute.viaMacro r σ v c name = .error f := by
  rw [Attribute.viaMacro, hname, if_neg Bool.false_ne_true, hi.sought_eq, hf]
  rfl

/-- A name that nothing holds is told to mean nothing, and reading it on the class or an object says that
it is not there, exactly if every value that ordinary classes keep in the place of registries lets it pass;
and else all of this raises the same, which is no failure to find an attribute. -/
theorem unheld_name_iff (h : IsUnheld σ c name) (hobj : obj.isClass = false)
    (hclass : σ.classOf obj = c) (hname : Text.beginsWith name "__" = false)
    (hu : IsUnknown w (Reach.within w (Value.maxNesting - 1)) σ (.cls c) name)
    (huobj : IsUnknown w (Reach.within w (Value.maxNesting - 1)) σ obj name) :
    let read := fun v => (Reach.of w).read σ v name
    let has := ((Reach.of w).invoke (.cls c) Native.holds.name [.str name] []).run σ
    let notFound := Except.error (Failure.macroNotFound (σ.qualname c) name)
    ((has = (.ok (.bool false), σ) ∧ read (.cls c) = notFound ∧ read obj = notFound) ↔
        ∀ k ∈ σ.lineage c, Registry.IsPassedBy σ name k) ∧
      ((¬ ∀ k ∈ σ.lineage c, Registry.IsPassedBy σ name k) → ∃ f : Failure,
        f.kind = "TypeError" ∧ has = (.error f, σ) ∧ read (.cls c) = .error f ∧
          read obj = .error f) := by
  intro read has notFound
  have hi := h.answers.toInherits
  have hholds : has = ((fun found => .bool found.isSome) <$> Registry.find? σ c (.str name), σ) :=
    hi.invoke_holds name 988
  have hread : ∀ v, Seeks σ c v → IsUnknown w (Reach.within w (980 + 9)) σ v name → ∀ f : Failure,
      Attribute.viaMacro (Reach.within w (980 + 9)) σ v c name = .error f → read v = .error f :=
    fun v hs hu f hf => Attribute.readThrough_of_error ((h.answers.step_eq hs hu).trans hf)
  have hraised : (¬ ∀ k ∈ σ.lineage c, Registry.IsPassedBy σ name k) → ∃ f : Failure,
      f.kind = "TypeError" ∧ has = (.error f, σ) ∧ read (.cls c) = .error f ∧ read obj = .error f := by
    intro hp
    obtain ⟨f, hf, hkind⟩ := h.find?_of_not_passed hp
    rw [hf] at hholds
    exact ⟨f, hkind, hholds, hread _ .cls hu f (hi.viaMacro_of_error hname hf),
      hread _ (.object hobj hclass) huobj f (hi.viaMacro_of_error hname hf)⟩
  refine ⟨⟨fun hall => ?_, fun hp => ?_⟩, hraised⟩
  · by_contra hp
    obtain ⟨f, -, hf, -⟩ := hraised hp
    rw [hf] at hall
    cases hall.1
  · have hfound := h.find?_of_passed hp
    rw [hfound] at hholds
    exact ⟨hholds, hread _ .cls hu _ (hi.viaMacro_eq hname hfound),
      hread _ (.object hobj hclass) huobj _ (hi.viaMacro_eq hname hfound)⟩

namespace Cellar

/-- A macroable class below an ordinary one that keeps a number under the name of the registries. -/
def site : Site :=
  (Site.empty default)
    |>.addClass "Plain" "Plain" "Plain" "app" [] .null [(ownField, .int 5)]
    |>.addClass "Basket" "Basket" "Basket" "app" [rootClass, .defined "Plain"] .null []
    |>.addObject "basket" (.defined "Basket") []

theorem lineage_state : site.state.lineage (.defined "Basket") =
    [.defined "Basket", rootClass, .defined "Plain", objectClass] := rfl

/-- The classes keep registries of their own, but they are no hierarchy. -/
example : Clan site.state [rootClass, .defined "Basket"] ∧
    ¬ Hierarchy site.state [rootClass, .defined "Basket"] := by decide

theorem answers_state : Answers site.state (.defined "Basket") := ⟨by decide, rfl, rfl⟩

/-- What the classes keep under the name of the registries. -/
theorem kept_state {k : ClassId} {v : Value} (hk : k ∈ site.state.lineage (.defined "Basket"))
    (hv : site.state.inClass k ownField = some v) : v = .dict [] ∨ v = .int 5 := by
  rw [lineage_state] at hk
  simp only [List.mem_cons, List.not_mem_nil, or_false] at hk
  rcases hk with rfl | rfl | rfl | rfl
  · exact .inl (Option.some.inj hv).symm
  · cases hv
  · exact .inr (Option.some.inj hv).symm
  · cases hv

theorem isUnheld_state (name : String) : IsUnheld site.state (.defined "Basket") name where
  answers := answers_state
  shared := ⟨[], rfl, rfl⟩
  mappings k hk v hv entries he := by
    rcases kept_state hk hv with rfl | rfl
    · cases he
      rfl
    · cases he
  plain k hk v hv := by
    rcases kept_state hk hv with rfl | rfl <;> decide

theorem not_passed_state (name : String) : ¬ ∀ k ∈ site.state.lineage (.defined "Basket"),
    Registry.IsPassedBy site.state name k := by
  intro hp
  have hplain := hp (.defined "Plain") (by rw [lineage_state]; decide) (.int 5) rfl
  cases hplain

end Cellar

open Cellar in
theorem cellar_unheld_name : ∃ f : Failure, f.kind = "TypeError" ∧
    ((Reach.of site.world).invoke (.cls (.defined "Basket")) Native.holds.name [.str "tap"] []).run
      site.state = (.error f, site.state) ∧
    (Reach.of site.world).read site.state (.objectRef "basket") "tap" = .error f := by
  obtain ⟨-, hraised⟩ := unheld_name_iff (w := site.world) (isUnheld_state "tap")
    (rfl : (Value.objectRef "basket").isClass = false) rfl (by decide +kernel) (.of_class rfl rfl)
    (.of_object rfl rfl rfl rfl rfl)
  obtain ⟨f, hkind, hhas, -, hread⟩ := hraised (not_passed_state "tap")
  exact ⟨f, hkind, hhas, hread⟩

open Cellar in
/-- Nothing holds the name, and the number counts as no storage of the ordinary class; yet seeking the name
raises that the number cannot be asked for it. -/
theorem cellar_unheld_name_raises :
    IsUnheld site.state (.defined "Basket") "tap" ∧
      ((Extraction.storage? site.world (Reach.of site.world) (.cls (.defined "Plain"))
        Extraction.storageFields).run site.state).1 = .ok none ∧
      ((Reach.of site.world).invoke (.cls (.defined "Basket")) Native.holds.name [.str "tap"] []).run
        site.state = (.error (.notIterable "int"), site.state) ∧
      (Reach.of site.world).read site.state (.cls (.defined "Basket")) "tap" =
        .error (.notIterable "int") ∧
      (Reach.of site.world).read site.state (.objectRef "basket") "tap" =
        .error (.notIterable "int") ∧
      (Failure.notIterable "int").isAttribute = false := by
  refine ⟨isUnheld_state "tap", ?_, ?_, ?_, ?_, rfl⟩ <;> with_unfolding_all rfl

end MacroStubs
