import MacroStubs.Proofs.Collection.Extraction
import MacroStubs.Proofs.Collection.Scan

/-! # Agreement of collection and look-up

A macro that a name means on a class is the one that is collected under that name from the first
macroable class of the lineage, the root class coming last.
-/

namespace MacroStubs

variable {w : World} {σ : State} {c k : ClassId} {name : String} {classes : List ClassId}
variable {h : History} {coll : Collection} {listed : List Value} {found : List ClassMacros}

/-- The first macro that was extracted under a name. -/
def ClassMacros.named? (name : String) (m : ClassMacros) : Option Macro :=
  (m.entries.find? (·.name == name)).map (·.entry)

namespace Collection

/-- Whether a part was extracted from this class. -/
def isFrom (c : ClassId) (e : Value × Option ClassMacros) : Bool :=
  match e.1 with
  | .cls k => k == c
  | _ => false

/-- What was collected from a class under a name. -/
def macro? (coll : Collection) (name : String) (c : ClassId) : Option Macro :=
  ((coll.find? (isFrom c)).bind (·.2)).bind (·.named? name)

/-- Whether something was collected from a class under a name. -/
def Holds (coll : Collection) (name : String) (c : ClassId) : Prop :=
  ∃ m, (.cls c, some m) ∈ coll ∧ ∃ e ∈ m.entries, e.name = name

theorem isFrom_iff {e : Value × Option ClassMacros} : isFrom c e = true ↔ e.1 = .cls c := by
  obtain ⟨v, part⟩ := e
  cases v <;> simp [isFrom]

theorem holds_of_macro? {x : Macro} (h : coll.macro? name c = some x) : coll.Holds name c := by
  obtain ⟨m, hm, hnamed⟩ := Option.bind_eq_some_iff.mp h
  obtain ⟨⟨v, part⟩, hfind, rfl⟩ := Option.bind_eq_some_iff.mp hm
  obtain rfl : v = .cls c := isFrom_iff.mp (List.find?_some hfind)
  obtain ⟨e, he, -⟩ := Option.map_eq_some_iff.mp hnamed
  have hname := List.find?_some he
  exact ⟨m, List.mem_of_find?_eq_some hfind, e, List.mem_of_find?_eq_some he, eq_of_beq hname⟩

end Collection

/-- The macroable classes of a lineage, the root class last. -/
def State.macroOrder (σ : State) (c : ClassId) : List ClassId :=
  ((σ.lineage c).filter fun k => σ.isMacroable k && decide (k ≠ rootClass)) ++ [rootClass]

namespace Family

theorem mem_of_macroable (hf : Family σ classes) (hc : c ∈ classes) (hk : k ∈ σ.lineage c)
    (hm : σ.isMacroable k = true) : k ∈ classes := (hf.macroable c hc k hk).mpr hm

theorem root_mem_lineage (hf : Family σ classes) (hc : c ∈ classes) : rootClass ∈ σ.lineage c := by
  obtain ⟨ancestors, hl⟩ := hf.first c hc
  have hself : c ∈ σ.lineage c := hl ▸ List.mem_cons_self
  exact List.contains_iff_mem.mp ((hf.macroable c hc c hself).mp hc)

theorem mem_macroOrder (hf : Family σ classes) (hc : c ∈ classes) :
    k ∈ σ.macroOrder c ↔ k ∈ σ.lineage c ∧ σ.isMacroable k = true := by
  have hroot := hf.root_mem_lineage hc
  have hm := (hf.macroable c hc rootClass hroot).mp hf.hierarchy.root
  rw [State.macroOrder, List.mem_append, List.mem_filter, List.mem_singleton, Bool.and_eq_true,
    decide_eq_true_iff]
  constructor
  · rintro (⟨hk, hm, -⟩ | rfl)
    · exact ⟨hk, hm⟩
    · exact ⟨hroot, hm⟩
  · rintro ⟨hk, hm⟩
    by_cases he : k = rootClass
    · exact .inr he
    · exact .inl ⟨hk, hm, he⟩

end Family

namespace Remembers

theorem gives_entries (hr : Remembers σ classes h) (hf : Family σ classes) (hc : c ∈ classes)
    {part : Option ClassMacros} (hg : Extraction.Gives w σ (.cls c) part) :
    (part.map (·.entries)).getD [] = Extraction.entriesOf σ (σ.registered c) := by
  obtain ⟨host, hg⟩ := hg
  have hp := Extraction.extract_ends (w := w) hf.clan hc (hr.texts c hc) host
  rw [hg] at hp
  exact hp

theorem untold_of_fails (hr : Remembers σ classes h) (hf : Family σ classes) (hc : c ∈ classes)
    {f : Failure} (hfails : Extraction.Fails w σ (.cls c) f) : Extraction.Untold w σ (.cls c) f := by
  obtain ⟨host, hfails⟩ := hfails
  have hp := Extraction.extract_ends (w := w) hf.clan hc (hr.texts c hc) host
  rw [hfails] at hp
  exact hp

/-- What is collected from a class is what it has registered. -/
theorem macro?_eq (hr : Remembers σ classes h) (hf : Family σ classes) (hc : c ∈ classes)
    (hcoll : coll.IsOf w σ listed found) (hl : .cls c ∈ listed)
    (hn : Text.isDeclarable name = true) :
    coll.macro? name c = (Table.get? (σ.registered c) (Value.str name)).map (Macro.ofValue σ) := by
  rw [← hcoll.classes] at hl
  obtain ⟨e, he, hcls⟩ := List.mem_map.mp hl
  have hsome : (coll.find? (Collection.isFrom c)).isSome = true :=
    List.find?_isSome.mpr ⟨e, he, Collection.isFrom_iff.mpr hcls⟩
  obtain ⟨⟨v, part⟩, hfind⟩ := Option.isSome_iff_exists.mp hsome
  obtain rfl : v = .cls c := Collection.isFrom_iff.mp (List.find?_some hfind)
  have hgives : Extraction.Gives w σ (.cls c) part :=
    hcoll.parts (.cls c, part) (List.mem_of_find?_eq_some hfind)
  have hentries := hr.gives_entries hf hc hgives
  rw [← Extraction.find?_entriesOf hn, ← hentries, Collection.macro?, hfind]
  cases part <;> rfl

theorem holds_iff (hr : Remembers σ classes h) (hf : Family σ classes) (hc : c ∈ classes)
    (hcoll : coll.IsOf w σ listed found) (hl : .cls c ∈ listed)
    (hn : Text.isDeclarable name = true) :
    coll.Holds name c ↔ (coll.macro? name c).isSome = true := by
  constructor
  · rintro ⟨m, hm, e, he, rfl⟩
    have hgives : Extraction.Gives w σ (.cls c) (some m) :=
      hcoll.parts (.cls c, some m) hm
    have hentries : m.entries = Extraction.entriesOf σ (σ.registered c) :=
      hr.gives_entries hf hc hgives
    rw [hr.macro?_eq hf hc hcoll hl hn, ← Extraction.find?_entriesOf hn, ← hentries,
      Option.isSome_map]
    exact List.find?_isSome.mpr ⟨e, he, beq_self_eq_true _⟩
  · intro hs
    obtain ⟨x, hx⟩ := Option.isSome_iff_exists.mp hs
    exact Collection.holds_of_macro? hx

/-- What a name means is sought in the macroable classes of the lineage alone, the root class last. -/
theorem meaning?_eq (hr : Remembers σ classes h) (hf : Family σ classes) (hc : c ∈ classes) :
    h.meaning? (σ.lineage c) name = (σ.macroOrder c).findSome? (h.last? · name) := by
  have hnone : ∀ k ∈ (σ.lineage c).filter (· ≠ rootClass), h.last? k name =
      if σ.isMacroable k then h.last? k name else none := by
    intro k hk
    split
    · rfl
    · rename_i hm
      refine hr.outside k (fun hmem => hm ?_) name
      exact (hf.macroable c hc k (List.mem_filter.mp hk).1).mp hmem
  rw [History.meaning?, State.macroOrder, List.findSome?_append, findSome?_of_filter hnone,
    List.filter_filter, List.findSome?_singleton]

/-- What a name means is what is collected under it first. -/
theorem map_meaning? (hr : Remembers σ classes h) (hf : Family σ classes) (hc : c ∈ classes)
    (hcoll : coll.IsOf w σ listed found)
    (hl : ∀ k ∈ σ.lineage c, σ.isMacroable k = true → .cls k ∈ listed)
    (hn : Text.isDeclarable name = true) :
    (h.meaning? (σ.lineage c) name).map (Macro.ofValue σ) =
      (σ.macroOrder c).findSome? (coll.macro? name) := by
  rw [hr.meaning?_eq hf hc, List.map_findSome?]
  refine findSome?_congr fun k hk => ?_
  obtain ⟨hk, hm⟩ := (hf.mem_macroOrder hc).mp hk
  have hmem := hf.mem_of_macroable hc hk hm
  rw [hr.macro?_eq hf hmem hcoll (hl k hk hm) hn, hr.inside k hmem]
  rfl

/-- A name means something if and only if something is collected under it. -/
theorem isSome_meaning?_iff (hr : Remembers σ classes h) (hf : Family σ classes) (hc : c ∈ classes)
    (hcoll : coll.IsOf w σ listed found)
    (hl : ∀ k ∈ σ.lineage c, σ.isMacroable k = true → .cls k ∈ listed)
    (hn : Text.isDeclarable name = true) :
    (h.meaning? (σ.lineage c) name).isSome = true ↔
      ∃ k ∈ σ.lineage c, σ.isMacroable k = true ∧ coll.Holds name k := by
  rw [← Option.isSome_map (f := Macro.ofValue σ), hr.map_meaning? hf hc hcoll hl hn,
    List.findSome?_isSome_iff]
  constructor
  · rintro ⟨k, hk, hs⟩
    obtain ⟨hk, hm⟩ := (hf.mem_macroOrder hc).mp hk
    exact ⟨k, hk, hm, (hr.holds_iff hf (hf.mem_of_macroable hc hk hm) hcoll (hl k hk hm) hn).mpr hs⟩
  · rintro ⟨k, hk, hm, hh⟩
    exact ⟨k, (hf.mem_macroOrder hc).mpr ⟨hk, hm⟩,
      (hr.holds_iff hf (hf.mem_of_macroable hc hk hm) hcoll (hl k hk hm) hn).mp hh⟩

end Remembers

/-- After any calls on the classes of a family whose registries are empty at first, a class holds a
macro of a name that can be declared if and only if one was collected under the name from a macroable
class of its lineage, and the macro that it finds is the one from the first of these, the root class
coming last. Collecting fails only if a class outside the family cannot be extracted from or one of
the family does not tell its module. -/
theorem collection_agrees_with_lookup (hf : Family σ classes)
    (he : ∀ c ∈ classes, σ.registered c = []) (calls : List RegistryCall)
    (ht : ∀ call ∈ calls, call.target ∈ classes) (hc : c ∈ classes) (g : Generator)
    (hs : Generator.IsSettled w (RegistryCall.runAll w calls σ) g.classes) {res : Resolution}
    (hres : (Resolution.ofIdentifiers (Reach.of w) (importModule w) g.classes).Ends
      (RegistryCall.runAll w calls σ) (· = .ok res))
    (hl : ∀ k ∈ σ.lineage c, σ.isMacroable k = true → .cls k ∈ res.resolved.map (·.2)) :
    let τ := RegistryCall.runAll w calls σ
    let listed := res.resolved.map (·.2)
    match (g.collect w (Reach.of w) (importModule w) τ).1.1 with
    | .ok found =>
      ∃ coll : Collection, coll.IsOf w τ listed found ∧
        ∀ name, Text.isDeclarable name = true → ∃ meant : Option Value,
          ((Reach.of w).invoke (.cls c) Native.find.name [.str name] []).run τ =
              (.ok (meant.getD .missing), τ) ∧
            ((Reach.of w).invoke (.cls c) Native.holds.name [.str name] []).run τ =
              (.ok (.bool meant.isSome), τ) ∧
            (meant.isSome = true ↔
              ∃ k ∈ σ.lineage c, σ.isMacroable k = true ∧ coll.Holds name k) ∧
            meant.map (Macro.ofValue τ) = (σ.macroOrder c).findSome? (coll.macro? name)
    | .error failure =>
      ∃ cls ∈ listed, Extraction.Fails w τ cls failure ∧
        ∀ k ∈ classes, cls = .cls k → Extraction.Untold w τ cls failure := by
  intro τ listed
  have hleaves := (Remembers.of_empty hf.hierarchy he).runAll_run (w := w) calls ht
  have hr := hleaves.remembers
  have hfamily : Family τ classes := hf.leaves hleaves
  -- no call changes a lineage, so the macroable classes and their order are those from before
  have hlineage : τ.lineage = σ.lineage := hleaves.lineage
  have hmacroable : τ.isMacroable = σ.isMacroable := by
    funext k
    rw [State.isMacroable, State.isMacroable, hlineage]
  have horder : τ.macroOrder = σ.macroOrder := by
    funext k
    rw [State.macroOrder, State.macroOrder, hlineage, hmacroable]
  have hlisted : ∀ k ∈ τ.lineage c, τ.isMacroable k = true → .cls k ∈ listed := by
    rw [hlineage, hmacroable]
    exact hl
  have houtcome := Generator.collect_outcome g hs hres
  generalize (g.collect w (Reach.of w) (importModule w) τ).1.1 = outcome at houtcome ⊢
  cases outcome with
  | ok found =>
    obtain ⟨coll, hcoll⟩ := houtcome
    refine ⟨coll, hcoll, fun name hn => ⟨_, hr.invoke_find hc name 988, hr.invoke_holds hc name 988,
      ?_, ?_⟩⟩
    · rw [hr.isSome_meaning?_iff hfamily hc hcoll hlisted hn, hlineage, hmacroable]
    · rw [hr.map_meaning? hfamily hc hcoll hlisted hn, horder]
  | error failure =>
    obtain ⟨cls, hmem, hfails⟩ := houtcome
    refine ⟨cls, hmem, hfails, ?_⟩
    rintro k hk rfl
    exact hr.untold_of_fails hfamily hk hfails

namespace Diamond

/-- The classes below one another with the module that they are in. -/
def imported : State :=
  { site.state with
    modules := site.state.modules.put "app"
      [("Top", .cls (.defined "Top")), ("Left", .cls (.defined "Left")),
       ("Right", .cls (.defined "Right")), ("Bottom", .cls (.defined "Bottom"))] }

def identified : List (String × ClassId) :=
  [("app:Bottom", .defined "Bottom"), ("app:Left", .defined "Left"), ("app:Right", .defined "Right"),
    ("macro_stubgen.macroable.Macroable", rootClass), ("app:Top", .defined "Top")]

def generator : Generator where
  classes := identified.map (·.1)

/-- The state after macros were registered and removed. -/
def changed : State := RegistryCall.runAll site.world calls imported

theorem family_imported : Family imported family := by decide

theorem registered_imported : ∀ c ∈ family, imported.registered c = [] :=
  forall_family ⟨rfl, rfl, rfl, rfl, rfl⟩

theorem lineage_identified : ∀ k ∈ imported.lineage (.defined "Bottom"),
    imported.isMacroable k = true → k ∈ identified.map (·.2) := by decide

theorem identified_mem_family : ∀ e ∈ identified, e.2 ∈ family := by decide

/-- No module is left to import. -/
theorem isSettled_changed : Generator.IsSettled site.world changed (identified.map (·.1)) :=
  Generator.isSettled_of_unknown fun _ => rfl

theorem resolve_ends : ∀ e ∈ identified,
    (Resolution.resolve (Reach.of site.world) (importModule site.world) e.1).Ends changed
      (· = .ok (some (.cls e.2))) := by
  simp only [identified, List.forall_mem_cons]
  exact ⟨fun _ => rfl, fun _ => rfl, fun _ => rfl, fun _ => rfl, fun _ => rfl, nofun⟩

theorem resolution_ends :
    (Resolution.ofIdentifiers (Reach.of site.world) (importModule site.world)
      generator.classes).Ends changed (· = .ok (.ofNamed identified)) :=
  Generator.ofIdentifiers_ends isSettled_changed resolve_ends (by decide)

theorem find_changed :
    ((Reach.of site.world).invoke (.cls (.defined "Bottom")) Native.find.name [.str "first"] []).run
      changed = (.ok (.int 1), changed) := by
  have hr := (Remembers.of_empty family_imported.hierarchy registered_imported).runAll_run
    (w := site.world) calls (by decide)
  have hc : ClassId.defined "Bottom" ∈ family := by decide
  exact hr.remembers.invoke_find hc "first" 988

/-- Every class tells its module. -/
theorem read_module : ∀ k ∈ family, ∀ host, ∃ v,
    (Reach.of site.world).read { changed with host } (.cls k) "__module__" = .ok v :=
  forall_family ⟨fun _ => ⟨_, rfl⟩, fun _ => ⟨_, rfl⟩, fun _ => ⟨_, rfl⟩, fun _ => ⟨_, rfl⟩,
    fun _ => ⟨_, rfl⟩⟩

end Diamond

/-- What was registered on the class above both is collected from it, as neither of these has it. -/
theorem diamond_collection_agrees :
    ∃ found coll, (Diamond.generator.collect Diamond.site.world (Reach.of Diamond.site.world)
        (importModule Diamond.site.world) Diamond.changed).1.1 = .ok found ∧
      Collection.IsOf Diamond.site.world Diamond.changed
        ((Resolution.ofNamed Diamond.identified).resolved.map (·.2)) found coll ∧
      (Diamond.imported.macroOrder (.defined "Bottom")).findSome? (coll.macro? "first") =
        some (.callable (.int 1)) := by
  have h := collection_agrees_with_lookup Diamond.family_imported Diamond.registered_imported
    Diamond.calls (by decide +kernel) (by decide +kernel : ClassId.defined "Bottom" ∈ Diamond.family)
    Diamond.generator Diamond.isSettled_changed Diamond.resolution_ends
    (fun k hk hm => Resolution.mem_classes_ofNamed.mpr (Diamond.lineage_identified k hk hm))
  dsimp only at h
  split at h
  · rename_i found hfound
    obtain ⟨coll, hcoll, hnames⟩ := h
    refine ⟨found, coll, hfound, hcoll, ?_⟩
    obtain ⟨meant, hfind, -, -, hmeant⟩ := hnames "first" (by decide +kernel)
    have hone := congrArg Prod.fst (Diamond.find_changed.symm.trans hfind)
    rw [← hmeant]
    cases meant with
    | none => cases hone
    | some v =>
      obtain rfl : .int 1 = v := Except.ok.inj hone
      rfl
  · rename_i failure _
    obtain ⟨cls, hmem, -, huntold⟩ := h
    rw [Resolution.classes_ofNamed] at hmem
    obtain ⟨e, he, rfl⟩ := List.mem_map.mp hmem
    have hk := Diamond.identified_mem_family e he
    obtain ⟨host, hfails⟩ := huntold e.2 hk rfl
    obtain ⟨v, hv⟩ := Diamond.read_module e.2 hk host
    exact absurd (hfails.symm.trans hv) nofun

namespace Stall

def tap : Value := .function "tap" "tap" [] .null (.returns .null)

/-- A macroable class below an ordinary one that has a shared registry of its own. -/
def site : Site :=
  (Site.empty default)
    |>.addClass "Plain" "Plain" "Plain" "app" [] .null [(sharedField, .dict [(.str "tap", tap)])]
    |>.addClass "Basket" "Basket" "Basket" "app" [.defined "Plain", rootClass] .null []

def imported : State :=
  { site.state with
    modules := site.state.modules.put "app"
      [("Plain", .cls (.defined "Plain")), ("Basket", .cls (.defined "Basket"))] }

def family : List ClassId := [rootClass, .defined "Basket"]

def identified : List (String × ClassId) :=
  [("macro_stubgen.macroable.Macroable", rootClass), ("app:Basket", .defined "Basket"),
    ("app:Plain", .defined "Plain")]

def generator : Generator where
  classes := identified.map (·.1)

theorem forall_family {p : ClassId → Prop} (h : p rootClass ∧ p (.defined "Basket")) :
    ∀ c ∈ family, p c := by
  simpa [family] using h

theorem family_imported : Family imported family := by decide

theorem registered_imported : ∀ c ∈ family, imported.registered c = [] :=
  forall_family ⟨rfl, rfl⟩

theorem isSettled_imported : Generator.IsSettled site.world imported (identified.map (·.1)) :=
  Generator.isSettled_of_unknown fun _ => rfl

theorem resolve_ends : ∀ e ∈ identified,
    (Resolution.resolve (Reach.of site.world) (importModule site.world) e.1).Ends imported
      (· = .ok (some (.cls e.2))) := by
  simp only [identified, List.forall_mem_cons]
  exact ⟨fun _ => rfl, fun _ => rfl, fun _ => rfl, nofun⟩

theorem resolution_ends :
    (Resolution.ofIdentifiers (Reach.of site.world) (importModule site.world)
      generator.classes).Ends imported (· = .ok (.ofNamed identified)) :=
  Generator.ofIdentifiers_ends isSettled_imported resolve_ends (by decide)

/-- What is extracted from each class. -/
def partOf (c : ClassId) : Option ClassMacros :=
  if c = .defined "Plain" then
    some { module := .str "app", className := .str "Plain", field := sharedField,
           entries := [{ name := "tap", entry := .callable tap }] }
  else none

theorem extract_ends : ∀ e ∈ identified,
    (Extraction.extract site.world (Reach.of site.world) Extraction.storageFields (.cls e.2)).Ends
      imported (· = .ok (partOf e.2)) := by
  simp only [identified, List.forall_mem_cons]
  exact ⟨fun _ => rfl, fun _ => rfl, fun _ => rfl, nofun⟩

end Stall

/-- What an ordinary class keeps in a shared registry of its own is collected from it, although a
macroable class below it does not hold it. -/
theorem basket_collection_disagrees :
    Family Stall.imported Stall.family ∧ (∀ c ∈ Stall.family, Stall.imported.registered c = []) ∧
      ((Reach.of Stall.site.world).invoke (.cls (.defined "Basket")) Native.holds.name
        [.str "tap"] []).run Stall.imported = (.ok (.bool false), Stall.imported) ∧
      ∃ found coll, (Stall.generator.collect Stall.site.world (Reach.of Stall.site.world)
          (importModule Stall.site.world) Stall.imported).1.1 = .ok found ∧
        Collection.IsOf Stall.site.world Stall.imported
          ((Resolution.ofNamed Stall.identified).resolved.map (·.2)) found coll ∧
        ∃ k ∈ Stall.imported.lineage (.defined "Basket"), coll.Holds "tap" k := by
  refine ⟨Stall.family_imported, Stall.registered_imported, rfl, ?_⟩
  have houtcome := Generator.collect_outcome Stall.generator Stall.isSettled_imported
    Stall.resolution_ends
  generalize (Stall.generator.collect Stall.site.world (Reach.of Stall.site.world)
    (importModule Stall.site.world) Stall.imported).1.1 = outcome at houtcome
  rw [Resolution.classes_ofNamed] at houtcome ⊢
  cases outcome with
  | ok found =>
    obtain ⟨coll, hcoll⟩ := houtcome
    refine ⟨found, coll, rfl, hcoll, .defined "Plain", by decide +kernel, ?_⟩
    have hidentified : ("app:Plain", .defined "Plain") ∈ Stall.identified := by decide +kernel
    have hplain : Value.cls (.defined "Plain") ∈ coll.map (·.1) := by
      rw [hcoll.classes]
      exact List.mem_map.mpr ⟨_, hidentified, rfl⟩
    obtain ⟨⟨v, part⟩, hmem, rfl⟩ := List.mem_map.mp hplain
    obtain ⟨host, hpart⟩ := hcoll.parts (.cls (.defined "Plain"), part) hmem
    obtain rfl : part = Stall.partOf (.defined "Plain") :=
      Except.ok.inj (hpart.symm.trans (Stall.extract_ends _ hidentified host))
    exact ⟨_, hmem, _, List.mem_singleton_self _, rfl⟩
  | error failure =>
    obtain ⟨cls, hmem, host, hfails⟩ := houtcome
    obtain ⟨e, he, rfl⟩ := List.mem_map.mp hmem
    exact absurd (hfails.symm.trans (Stall.extract_ends e he host)) nofun

end MacroStubs
