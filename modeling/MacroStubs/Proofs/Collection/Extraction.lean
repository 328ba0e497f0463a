import MacroStubs.Proofs.Collection.Family
import MacroStubs.Proofs.Collection.Quiet

/-! # Extraction from macroable classes

What is extracted from a class that keeps a registry of its own: the macros that it has registered itself,
those with a name that can be declared, in the order of their registration.
-/

namespace MacroStubs

variable {w : World} {r : Reach} {σ σ' : State} {c k : ClassId} {name : String}
variable {entries : List (Value × Value)} {classes : List ClassId} {h : History}

namespace Extraction

/-- The entries with a name that can be declared. -/
def entriesOf (σ : State) (entries : List (Value × Value)) : List Entry :=
  entries.filterMap fun e => (e.1.text?).bind fun name =>
    if Text.isDeclarable name then some { name, entry := .ofValue σ e.2 } else none

/-- The first macro of a name that can be declared is that of the registry. -/
theorem find?_entriesOf (hn : Text.isDeclarable name = true) :
    ((entriesOf σ entries).find? (·.name == name)).map (·.entry) =
      (Table.get? entries (Value.str name)).map (Macro.ofValue σ) := by
  induction entries with
  | nil => rfl
  | cons e entries ih =>
    rw [entriesOf, List.filterMap_cons, Table.get?_cons]
    by_cases he : (e.1 == Value.str name) = true
    · rw [if_pos he, beq_str.mp he]
      simp [Value.text?, hn]
    · rw [if_neg he, ← ih]
      cases ht : e.1.text? with
      | none => rfl
      | some other =>
        have hne : other ≠ name := by
          rintro rfl
          refine he (beq_str.mpr ?_)
          cases hk : e.1 <;> rw [hk] at ht <;> cases ht
          rfl
        by_cases hd : Text.isDeclarable other = true
        · simp [hd, hne, entriesOf]
        · simp [hd, entriesOf]

variable {cls : Value}

theorem static?_cls (σ : State) (c : ClassId) (name : String) :
    Attribute.static? σ (.cls c) name =
      (σ.inLineage c name).or (σ.inLineage (σ.metaclass c) name) := by
  rw [Attribute.static?]
  cases σ.inLineage c name <;> simp [Value.isClass, State.classOf]

theorem storage?_of_found {field : String} {rest : List String}
    (hs : Attribute.static? σ cls field = some (.dict entries)) :
    (storage? w r cls (field :: rest)).run σ = (.ok (some (field, entries)), σ) := by
  rw [storage?, Run.get_bind, hs]
  rfl

theorem storage?_of_missing {field : String} {rest : List String}
    (hs : Attribute.static? σ cls field = none) :
    (storage? w r cls (field :: rest)).run σ = (storage? w r cls rest).run σ := by
  rw [storage?, Run.get_bind, hs]

/-- A class of a clan keeps its macros in the field that it registers them in. -/
theorem storage?_run (hσ : Clan σ classes) (hc : c ∈ classes) :
    (storage? w r (.cls c) storageFields).run σ =
      (.ok (some (Registry.fieldOf c, σ.registered c)), σ) := by
  obtain ⟨ancestors, hl⟩ := hσ.first c hc
  obtain ⟨entries, he⟩ := hσ.kindred.registry c hc
  have hreg : σ.registered c = entries := by rw [State.registered, he]
  have hfield : σ.inLineage c (Registry.fieldOf c) = some (.dict entries) := by
    rw [State.inLineage, hl, List.findSome?_cons, he]
  have hstatic : Attribute.static? σ (.cls c) (Registry.fieldOf c) = some (.dict entries) := by
    rw [static?_cls, hfield, Option.some_or]
  rw [hreg, storageFields]
  by_cases hroot : c = rootClass
  · subst hroot
    have hown : Attribute.static? σ (.cls rootClass) ownField = none := by
      have hnone : σ.inLineage rootClass ownField = none :=
        List.findSome?_eq_none_iff.mpr hσ.bare
      rw [static?_cls, hnone, (hσ.kindred.inherits rootClass hc).metaclass,
        hσ.inLineage_rootMetaclass (by decide)]
      rfl
    rw [storage?_of_missing hown]
    exact storage?_of_found hstatic
  · rw [Registry.fieldOf, if_neg hroot] at hstatic ⊢
    exact storage?_of_found hstatic

theorem qualname_run (hσ : Clan σ classes) (hc : c ∈ classes) :
    (qualname w (Reach.of w) (.cls c)).run σ = (.ok (σ.qualname c), σ) := by
  have hread : (Reach.of w).read σ (.cls c) "__qualname__" = .ok (.str (σ.qualname c)) :=
    hσ.read_title hc (by decide) 989
  refine Run.read_of_ok ?_
  rw [hread]
  rfl

/-- The warning about a macro of a class whose name cannot be declared. -/
def refusal (σ : State) (c : ClassId) (name : String) : Record where
  level := .warning
  reporter := reporter
  message := "Macro " ++ Text.quote name ++ " on " ++ σ.qualname c ++
    " is not a valid identifier, skipping"

def refusals (σ : State) (c : ClassId) (entries : List (Value × Value)) : List Record :=
  entries.filterMap fun e => (e.1.text?).bind fun name =>
    if Text.isDeclarable name then none else some (refusal σ c name)

/-- What is noted about a class of which no macro can be declared. -/
def vacancy (σ : State) (c : ClassId) : Record where
  level := .debug
  reporter := reporter
  message := "Empty macro storage " ++ Registry.fieldOf c ++ " on " ++ σ.qualname c

theorem refuse_run (hσ : Clan σ classes) (hc : c ∈ classes) (name : String) :
    (declarable.refuse w (Reach.of w) (.cls c) (.str name)).run σ =
      (.ok (), { σ with host := σ.host.log (refusal σ c name) }) := by
  have hprinted : printedText w (Reach.of w) σ (.str name) = .ok (Text.quote name) := rfl
  rw [declarable.refuse, Run.bind_of_ok (Run.read_of_ok hprinted), Run.bind_of_ok (qualname_run hσ hc)]
  rfl

/-- Of entries under texts each that can be declared is kept, and each other one is warned of. -/
theorem declarable_run (hσ : Clan σ classes) (hc : c ∈ classes)
    (ht : ∀ e ∈ entries, ∃ name, e.1 = .str name) :
    (declarable w (Reach.of w) (.cls c) entries).run σ =
      (.ok (entriesOf σ entries), { σ with host := σ.host.logAll (refusals σ c entries) }) := by
  induction entries generalizing σ with
  | nil => rfl
  | cons e rest ih =>
    obtain ⟨key, v⟩ := e
    obtain ⟨⟨name, hkey⟩, hrest⟩ := List.forall_mem_cons.mp ht
    obtain rfl : key = .str name := hkey
    rw [declarable, entriesOf, refusals, List.filterMap_cons, List.filterMap_cons]
    dsimp only [Value.text?, Option.bind_some]
    split
    · rw [Run.get_bind, Run.bind_of_ok (ih hσ hrest)]
      rfl
    · rw [Run.bind_of_ok (refuse_run hσ hc name)]
      exact ih (hσ.withHost _) hrest

/-- From a class of a clan the macros are extracted that it has registered, unless none of them can be
declared or the class does not tell its module. Nothing changes but what is reported. -/
theorem extract_run (hσ : Clan σ classes) (hc : c ∈ classes)
    (ht : ∀ e ∈ σ.registered c, ∃ name, e.1 = .str name) :
    let τ : State := { σ with host := σ.host.logAll (refusals σ c (σ.registered c)) }
    (extract w (Reach.of w) storageFields (.cls c)).run σ =
      if (entriesOf σ (σ.registered c)).isEmpty then
        (.ok none, { τ with host := τ.host.log (vacancy σ c) })
      else
        match (Reach.of w).read τ (.cls c) "__module__" with
        | .ok module =>
          (.ok (some { module
                       className := .str (σ.className c)
                       field := Registry.fieldOf c
                       entries := entriesOf σ (σ.registered c) }), τ)
        | .error f => (.error f, τ) := by
  intro τ
  have hτ : Clan τ classes := hσ.withHost _
  have hname : (Reach.of w).read τ (.cls c) "__name__" = .ok (.str (σ.className c)) :=
    hτ.read_title hc (by decide) 989
  rw [extract, Run.bind_of_ok (storage?_run hσ hc)]
  dsimp only
  rw [Run.bind_of_ok (declarable_run hσ hc ht)]
  split
  · rw [Run.bind_of_ok (qualname_run hτ hc)]
    rfl
  · cases hm : (Reach.of w).read τ (.cls c) "__module__" with
    | ok module =>
      rw [Run.bind_of_ok (Run.read_of_ok hm), Run.bind_of_ok (Run.read_of_ok hname)]
      rfl
    | error f => exact Run.bind_of_error (congrArg (·, τ) hm)

/-- Reading the module of a class may fail like this. -/
def Untold (w : World) (σ : State) (cls : Value) (f : Failure) : Prop :=
  ∃ host, (Reach.of w).read { σ with host } cls "__module__" = .error f

theorem extract_outcome (hσ : Clan σ classes) (hc : c ∈ classes)
    (ht : ∀ e ∈ σ.registered c, ∃ name, e.1 = .str name) :
    match ((extract w (Reach.of w) storageFields (.cls c)).run σ).1 with
    | .ok part => (part.map (·.entries)).getD [] = entriesOf σ (σ.registered c)
    | .error f => Untold w σ (.cls c) f := by
  rw [extract_run hσ hc ht]
  by_cases he : (entriesOf σ (σ.registered c)).isEmpty = true
  · rw [if_pos he]
    exact (List.isEmpty_iff.mp he).symm
  · rw [if_neg he]
    cases hm : (Reach.of w).read { σ with host := σ.host.logAll (refusals σ c (σ.registered c)) }
      (.cls c) "__module__" with
    | ok module => rfl
    | error f => exact ⟨_, hm⟩

/-- What extracting from a class of a clan ends with. -/
theorem extract_ends (hσ : Clan σ classes) (hc : c ∈ classes)
    (ht : ∀ e ∈ σ.registered c, ∃ name, e.1 = .str name) :
    (extract w (Reach.of w) storageFields (.cls c)).Ends σ fun
      | .ok part => (part.map (·.entries)).getD [] = entriesOf σ (σ.registered c)
      | .error f => Untold w σ (.cls c) f :=
  fun host => extract_outcome (hσ.withHost host) hc ht

end Extraction
end MacroStubs
