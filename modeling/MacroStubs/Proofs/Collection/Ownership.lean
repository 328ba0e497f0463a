import MacroStubs.Proofs.Collection.LastState

/-! # Whose macros are extracted

The storage of a class is found as its attributes are, so it may be one that the class inherits. A class
that holds a registry itself never takes another one, and so no class of a family does.
-/

namespace MacroStubs

variable {w : World} {r : Reach} {σ : State} {c : ClassId} {name field : String}
variable {entries : List (Value × Value)} {ancestors classes : List ClassId} {v : Value}

/-- What a class finds under a name behind itself: on its ancestors, then on the class of the class and
the ancestors of that one. -/
def State.behind (σ : State) (c : ClassId) (name : String) : Option Value :=
  ((σ.lineage c).tail ++ σ.lineage (σ.metaclass c)).findSome? (σ.inClass · name)

namespace Extraction

variable {cls : Value} {fields : List String} {m : ClassMacros}

/-- The entries that a class maps itself in a field. -/
def ownEntries? (σ : State) (c : ClassId) (field : String) : Option (List (Value × Value)) :=
  (σ.inClass c field).bind fun v => (σ.payload v).entries?

/-- Whatever storage is found for a class, the class holds it itself. -/
def FindsOwn (w : World) (r : Reach) (σ : State) (c : ClassId) : Prop :=
  ∀ field entries, ((storage? w r (.cls c) storageFields).run σ).1 = .ok (some (field, entries)) →
    ownEntries? σ c field = some entries

/-- A class does not hold a field itself, and what it finds there behind itself is a mapping. -/
def Borrows (σ : State) (c : ClassId) (field : String) : Prop :=
  σ.inClass c field = none ∧ ∃ v, σ.behind c field = some v ∧ ((σ.payload v).entries?).isSome = true

/-- The first field that a class has is one that it borrows. -/
def InheritsStorage (σ : State) (c : ClassId) : Prop :=
  Borrows σ c ownField ∨
    (σ.inClass c ownField = none ∧ σ.behind c ownField = none) ∧ Borrows σ c sharedField

/-- A class finds what it holds itself, and otherwise what is behind it. -/
theorem static?_eq_or (hself : σ.lineage c = c :: ancestors) (name : String) :
    Attribute.static? σ (.cls c) name = (σ.inClass c name).or (σ.behind c name) := by
  rw [static?_cls, State.behind, State.inLineage, hself, List.findSome?_cons, List.tail_cons,
    List.findSome?_append]
  cases σ.inClass c name <;> rfl

/-- A storage that is stored is found. -/
theorem storage?_of_stored {s : String × List (Value × Value)} (h : stored? σ cls fields = some s) :
    (storage? w r cls fields).run σ = (.ok (some s), σ) := by
  induction fields with
  | nil => cases h
  | cons field rest ih =>
    rw [stored?] at h
    cases hs : Attribute.static? σ cls field with
    | none =>
      rw [hs] at h
      rw [storage?_of_missing hs]
      exact ih h
    | some v =>
      rw [hs] at h
      obtain ⟨entries, he, rfl⟩ := Option.map_eq_some_iff.mp h
      rw [storage?, Run.get_bind, hs]
      dsimp only
      rw [he]
      rfl

theorem storage?_eq_some_iff {s : String × List (Value × Value)} :
    ((storage? w r cls fields).run σ).1 = .ok (some s) ↔ stored? σ cls fields = some s := by
  constructor
  · intro h
    exact (storage?_gives fields σ.host _ h).symm
  · intro h
    rw [storage?_of_stored h]

/-- What is stored is what the first field maps that a value has. -/
theorem stored?_storageFields : stored? σ cls storageFields = some (field, entries) ↔
    ∃ v, (σ.payload v).entries? = some entries ∧
      (field = ownField ∧ Attribute.static? σ cls ownField = some v ∨
        field = sharedField ∧ Attribute.static? σ cls ownField = none ∧
          Attribute.static? σ cls sharedField = some v) := by
  have hmap (first : String) (v : Value) : (σ.payload v).entries?.map (first, ·) =
      some (field, entries) ↔ (σ.payload v).entries? = some entries ∧ field = first := by
    cases (σ.payload v).entries? <;> simp [and_comm, eq_comm]
  simp only [stored?, storageFields]
  cases Attribute.static? σ cls ownField with
  | some v => simp [hmap]
  | none => cases Attribute.static? σ cls sharedField <;> simp [hmap]

/-- What a class finds is its own or borrowed. -/
theorem own_or_borrows (hself : σ.lineage c = c :: ancestors)
    (hs : Attribute.static? σ (.cls c) field = some v) (he : (σ.payload v).entries? = some entries) :
    ownEntries? σ c field = some entries ∨ Borrows σ c field := by
  rw [static?_eq_or hself] at hs
  cases hown : σ.inClass c field with
  | some found =>
    rw [hown, Option.some_or] at hs
    obtain rfl := Option.some.inj hs
    exact .inl (by rw [ownEntries?, hown, Option.bind_some, he])
  | none =>
    rw [hown, Option.none_or] at hs
    exact .inr ⟨hown, v, hs, by rw [he]; rfl⟩

theorem Borrows.static? (hself : σ.lineage c = c :: ancestors) (hb : Borrows σ c field) :
    ∃ v entries, Attribute.static? σ (.cls c) field = some v ∧
      (σ.payload v).entries? = some entries := by
  obtain ⟨hnone, v, hv, he⟩ := hb
  obtain ⟨entries, he⟩ := Option.isSome_iff_exists.mp he
  exact ⟨v, entries, by rw [static?_eq_or hself, hnone, Option.none_or, hv], he⟩

theorem Borrows.ownEntries? (hb : Borrows σ c field) : ownEntries? σ c field = none := by
  rw [Extraction.ownEntries?, hb.1, Option.bind_none]

/-- What a class stores is its own, unless it inherits its storage. -/
theorem own_of_stored (hself : σ.lineage c = c :: ancestors) (hi : ¬ InheritsStorage σ c)
    (h : stored? σ (.cls c) storageFields = some (field, entries)) :
    ownEntries? σ c field = some entries := by
  obtain ⟨v, he, ⟨rfl, hs⟩ | ⟨rfl, ho, hs⟩⟩ := stored?_storageFields.mp h
  · exact (own_or_borrows hself hs he).resolve_right fun hb => hi (.inl hb)
  · refine (own_or_borrows hself hs he).resolve_right fun hb => hi (.inr ⟨?_, hb⟩)
    rwa [static?_eq_or hself, Option.or_eq_none_iff] at ho

/-- A class that inherits its storage holds nothing itself where it is found. -/
theorem InheritsStorage.stored? (hself : σ.lineage c = c :: ancestors) (hi : InheritsStorage σ c) :
    ∃ field entries, stored? σ (.cls c) storageFields = some (field, entries) ∧
      ownEntries? σ c field = none := by
  rcases hi with hb | ⟨ho, hb⟩
  · obtain ⟨v, entries, hs, he⟩ := hb.static? hself
    exact ⟨_, entries, stored?_storageFields.mpr ⟨v, he, .inl ⟨rfl, hs⟩⟩, hb.ownEntries?⟩
  · obtain ⟨v, entries, hs, he⟩ := hb.static? hself
    have hnone : Attribute.static? σ (.cls c) ownField = none := by
      rwa [static?_eq_or hself, Option.or_eq_none_iff]
    exact ⟨_, entries, stored?_storageFields.mpr ⟨v, he, .inr ⟨rfl, hnone, hs⟩⟩, hb.ownEntries?⟩

theorem findsOwn_iff (hself : σ.lineage c = c :: ancestors) :
    FindsOwn w r σ c ↔ ¬ InheritsStorage σ c := by
  constructor
  · intro hown hi
    obtain ⟨field, entries, hs, hnone⟩ := hi.stored? hself
    cases hnone.symm.trans (hown field entries (storage?_eq_some_iff.mpr hs))
  · intro hi field entries hs
    exact own_of_stored hself hi (storage?_eq_some_iff.mp hs)

/-- What is extracted from a class is what it stores. -/
theorem stored?_of_extract (h : ((extract w r storageFields cls).run σ).1 = .ok (some m)) :
    ∃ entries, stored? σ cls storageFields = some (m.field, entries) ∧
      m.entries = entriesOf σ entries := by
  have hheld : some (m.field, m.entries) = held? σ cls := extract_gives σ.host _ h
  obtain ⟨s, hs, hif⟩ := Option.bind_eq_some_iff.mp hheld.symm
  split at hif
  · cases hif
  · obtain ⟨hfield, hentries⟩ := Prod.mk.inj (Option.some.inj hif)
    exact ⟨s.2, by rw [hs, ← hfield], hentries.symm⟩

/-- A class of a family finds its own registry. -/
theorem findsOwn_of_family (hf : Family σ classes) (hc : c ∈ classes) : FindsOwn w r σ c := by
  intro field found hs
  obtain ⟨entries, he⟩ := hf.hierarchy.registry c hc
  rw [storage?_run hf.clan hc] at hs
  obtain ⟨rfl, rfl⟩ := Prod.mk.inj (Option.some.inj (Except.ok.inj hs))
  rw [State.registered, ownEntries?, he]
  rfl

/-- The storage that is found for a class is its own, and so are the macros that are extracted from it, if
and only if it does not inherit the first field that it has. What a class keeps itself as the macros of
one class is always found first, and a class of a family finds what it has registered. -/
theorem extracted_are_own_iff (hself : σ.lineage c = c :: ancestors) :
    (FindsOwn w r σ c ↔ ¬ InheritsStorage σ c) ∧
      (∀ m, ((extract w r storageFields (.cls c)).run σ).1 = .ok (some m) →
        ((∃ entries, ownEntries? σ c m.field = some entries ∧ m.entries = entriesOf σ entries) ↔
          ¬ InheritsStorage σ c)) ∧
      (∀ entries, ownEntries? σ c ownField = some entries →
        (storage? w r (.cls c) storageFields).run σ = (.ok (some (ownField, entries)), σ)) ∧
      ∀ classes, Family σ classes → c ∈ classes → ¬ InheritsStorage σ c ∧
        (storage? w r (.cls c) storageFields).run σ =
          (.ok (some (Registry.fieldOf c, σ.registered c)), σ) := by
  refine ⟨findsOwn_iff hself, fun m hm => ?_, fun entries he => ?_, fun classes hf hc =>
    ⟨(findsOwn_iff hself).mp (findsOwn_of_family (w := w) (r := r) hf hc), storage?_run hf.clan hc⟩⟩
  · obtain ⟨entries, hs, hentries⟩ := stored?_of_extract hm
    constructor
    · rintro ⟨own, hown, -⟩ hi
      obtain ⟨field, others, hs', hnone⟩ := hi.stored? hself
      obtain ⟨rfl, -⟩ := Prod.mk.inj (Option.some.inj (hs.symm.trans hs'))
      cases hown.symm.trans hnone
    · intro hi
      exact ⟨entries, own_of_stored hself hi hs, hentries⟩
  · obtain ⟨v, hv, he⟩ := Option.bind_eq_some_iff.mp he
    have hs : Attribute.static? σ (.cls c) ownField = some v := by
      rw [static?_eq_or hself, hv, Option.some_or]
    exact storage?_of_stored (stored?_storageFields.mpr ⟨v, he, .inl ⟨rfl, hs⟩⟩)

end Extraction

namespace Convention

def tap : Value := .function "tap" "tap" [] .null (.returns .null)

/-- Two classes that are not macroable, the second one below the first, which keeps a macro. -/
def site : Site :=
  (Site.empty default)
    |>.addClass "Base" "Base" "Base" "app" [] .null [(ownField, .dict [(.str "tap", tap)])]
    |>.addClass "Sub" "Sub" "Sub" "app" [.defined "Base"] .null []

end Convention

theorem base_extracts_own :
    Extraction.FindsOwn Convention.site.world (Reach.of Convention.site.world) Convention.site.state
      (.defined "Base") := by
  have hi : ¬ Extraction.InheritsStorage Convention.site.state (.defined "Base") := by
    rintro (⟨hnone, -⟩ | ⟨⟨hnone, -⟩, -⟩) <;> cases hnone
  exact (Extraction.extracted_are_own_iff rfl).1.mpr hi

/-- What a class keeps is extracted from the class below it as well, which holds nothing itself. -/
theorem sub_extracts_inherited :
    Convention.site.state.inClass (.defined "Sub") ownField = none ∧
      ((Extraction.storage? Convention.site.world (Reach.of Convention.site.world)
          (.cls (.defined "Sub")) Extraction.storageFields).run Convention.site.state).1 =
        .ok (some (ownField, [(.str "tap", Convention.tap)])) ∧
      ((Extraction.extract Convention.site.world (Reach.of Convention.site.world)
          Extraction.storageFields (.cls (.defined "Sub"))).run Convention.site.state).1 =
        .ok (some { module := .str "app", className := .str "Sub", field := ownField,
                    entries := [{ name := "tap", entry := .callable Convention.tap }] }) :=
  ⟨rfl, rfl, rfl⟩

end MacroStubs
