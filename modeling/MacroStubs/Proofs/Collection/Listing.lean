import MacroStubs.Proofs.Collection.Agreement
import MacroStubs.Proofs.Host.Calling
import MacroStubs.Proofs.Macroable.Names

/-! # Macros in the order of their registration

After any calls on classes with registries of their own, what is extracted from one of them are the names
registered on it since it was emptied, in the order in which each came first, with the macro registered last
under each. Names that cannot be declared are left out with a warning. Whatever other classes that they
descend from keep in the place of registries, it is in the way of looking names up alone.
-/

namespace MacroStubs

variable {w : World} {σ : State} {c : ClassId} {classes : List ClassId} {h : History}

theorem History.map_fst_listed (h : History) (c : ClassId) : (h.listed c).map (·.1) = h.names c := by
  rw [listed, List.map_filterMap]
  have hsome : ∀ name ∈ h.names c, ((h.last? c name).map (name, ·)).map (·.1) = some name := by
    intro name hn
    obtain ⟨v, hv⟩ := Option.isSome_iff_exists.mp (mem_names_iff.mp hn)
    rw [hv]
    rfl
  rw [List.filterMap_congr hsome, List.filterMap_some]

namespace Extraction

variable {pairs : List (String × Value)}

/-- Pairs as the entries of a registry. -/
def keyed (pairs : List (String × Value)) : List (Value × Value) := pairs.map fun e => (.str e.1, e.2)

theorem entriesOf_keyed : entriesOf σ (keyed pairs) =
    (pairs.filter fun e => Text.isDeclarable e.1).map fun e =>
      { name := e.1, entry := .ofValue σ e.2 } := by
  induction pairs with
  | nil => rfl
  | cons e rest ih =>
    rw [keyed, List.map_cons, entriesOf, List.filterMap_cons, List.filter_cons]
    dsimp only [Value.text?, Option.bind_some]
    cases Text.isDeclarable e.1 with
    | true => exact congrArg (_ :: ·) ih
    | false => exact ih

theorem refusals_keyed : refusals σ c (keyed pairs) =
    ((pairs.map (·.1)).filter fun name => !Text.isDeclarable name).map (refusal σ c) := by
  induction pairs with
  | nil => rfl
  | cons e rest ih =>
    rw [keyed, List.map_cons, refusals, List.filterMap_cons, List.map_cons, List.filter_cons]
    dsimp only [Value.text?, Option.bind_some]
    cases Text.isDeclarable e.1 with
    | true => exact ih
    | false => exact congrArg (_ :: ·) ih

/-- The macros of a class that lists them under their history. -/
theorem entriesOf_listed (h : History) (c : ClassId) :
    (entriesOf σ (keyed (h.listed c))).map (·.name) = (h.names c).filter Text.isDeclarable ∧
      ∀ e ∈ entriesOf σ (keyed (h.listed c)), ∃ v, h.last? c e.name = some v ∧ e.entry = .ofValue σ v := by
  rw [entriesOf_keyed]
  constructor
  · rw [← h.map_fst_listed c, List.filter_map, List.map_map]
    rfl
  · intro e he
    obtain ⟨⟨name, v⟩, hmem, rfl⟩ := List.mem_map.mp he
    obtain ⟨other, -, hlast⟩ := List.mem_filterMap.mp (List.mem_filter.mp hmem).1
    obtain ⟨v', hv, hpair⟩ := Option.map_eq_some_iff.mp hlast
    obtain ⟨rfl, rfl⟩ := Prod.mk.inj hpair
    exact ⟨v', hv, rfl⟩

end Extraction

open Extraction in
/-- After any calls on the classes of a clan whose registries are empty at first, one macro is extracted from
a class for each name that can be declared and was registered on it since it was emptied, in the order in
which these came first, and it is the one registered last under the name. There is a warning for each other
name, and nothing else changes. Nothing is extracted if there is no such name, and otherwise extracting fails
only if the class does not tell its module. -/
theorem extraction_after_calls (hσ : Clan σ classes) (he : ∀ c ∈ classes, σ.registered c = [])
    (calls : List RegistryCall) (ht : ∀ call ∈ calls, call.target ∈ classes) (hc : c ∈ classes) :
    let τ := RegistryCall.runAll w calls σ
    let h := RegistryCall.historyIn w calls σ []
    let refused := (h.names c).filter fun name => !Text.isDeclarable name
    let warned : State := { τ with host := τ.host.logAll (refused.map (refusal τ c)) }
    (h.names c).Nodup ∧ (∀ name, name ∈ h.names c ↔ (h.last? c name).isSome = true) ∧
      if (h.names c).filter Text.isDeclarable = [] then
        (extract w (Reach.of w) storageFields (.cls c)).run τ =
          (.ok none, { warned with host := warned.host.log (vacancy τ c) })
      else
        match (Reach.of w).read τ (.cls c) "__module__" with
        | .ok module =>
          ∃ m, (extract w (Reach.of w) storageFields (.cls c)).run τ = (.ok (some m), warned) ∧
            m.module = module ∧ m.className = .str (τ.className c) ∧
            m.entries.map (·.name) = (h.names c).filter Text.isDeclarable ∧
            ∀ e ∈ m.entries, ∃ v, h.last? c e.name = some v ∧ e.entry = .ofValue τ v
        | .error failure =>
          (extract w (Reach.of w) storageFields (.cls c)).run τ = (.error failure, warned) := by
  intro τ h refused warned
  have hempty : Records σ classes [] := .of_empty hσ.kindred he
  have hsteps : Steps classes σ [] τ h := hσ.kindred.runAll_steps [] calls ht
  have hr : Records τ classes h := hsteps.records hempty
  have hτ : Clan τ classes := hsteps.lasts (P := (Clan · classes)) .putInClass hσ
  have hlists : Lists τ classes h := hsteps.lists hempty (Lists.of_empty he)
  have hregistered : τ.registered c = keyed (h.listed c) := hlists.registered_eq hr hc
  obtain ⟨hnames, hlast⟩ := entriesOf_listed (σ := τ) h c
  have hrefused : refusals τ c (τ.registered c) = refused.map (refusal τ c) := by
    rw [hregistered, refusals_keyed, h.map_fst_listed]
  have hnone : (entriesOf τ (keyed (h.listed c))).isEmpty = true ↔
      (h.names c).filter Text.isDeclarable = [] := by
    rw [← hnames, List.map_eq_nil_iff, List.isEmpty_iff]
  have hrun := extract_run (w := w) hτ hc (hr.texts c hc)
  dsimp only at hrun
  rw [hrefused, Reach.read_withHost, hregistered] at hrun
  refine ⟨h.nodup_names c, fun name => History.mem_names_iff, ?_⟩
  split
  · rename_i hn
    rw [if_pos (hnone.mpr hn)] at hrun
    exact hrun
  · rename_i hn
    rw [if_neg fun hp => hn (hnone.mp hp)] at hrun
    cases hm : (Reach.of w).read τ (.cls c) "__module__" with
    | ok module =>
      rw [hm] at hrun
      exact ⟨_, hrun, rfl, rfl, hnames, hlast⟩
    | error failure =>
      rw [hm] at hrun
      exact hrun

namespace Diamond

/-- What was registered before the class is emptied does not count, and a macro that is registered once more
keeps its place. -/
def listing : List RegistryCall :=
  [.register (.defined "Top") "a" (.int 0), .flush (.defined "Top"),
    .register (.defined "Top") "b" (.int 1), .register (.defined "Top") "not valid" (.int 2),
    .register (.defined "Top") "a" (.int 3), .register (.defined "Top") "b" (.int 4)]

/-- The state after these calls. -/
def registered : State := RegistryCall.runAll site.world listing imported

def history : History := RegistryCall.historyIn site.world listing imported []

theorem names_history : history.names (.defined "Top") = ["b", "not valid", "a"] := by decide +kernel

theorem last?_history : history.last? (.defined "Top") "b" = some (.int 4) := rfl

theorem read_registered (host : Host) :
    (Reach.of site.world).read { registered with host } (.cls (.defined "Top")) "__module__" =
      .ok (.str "app") := rfl

end Diamond

theorem diamond_extraction_after_calls :
    ∃ m, (Extraction.extract Diamond.site.world (Reach.of Diamond.site.world) Extraction.storageFields
        (.cls (.defined "Top"))).run Diamond.registered =
          (.ok (some m), { Diamond.registered with
            host := Diamond.registered.host.logAll
              [Extraction.refusal Diamond.registered (.defined "Top") "not valid"] }) ∧
      m.entries.map (·.name) = ["b", "a"] ∧
      ∀ e ∈ m.entries, e.name = "b" → e.entry = .ofValue Diamond.registered (.int 4) := by
  obtain ⟨-, -, h⟩ := extraction_after_calls (w := Diamond.site.world) Diamond.family_imported.clan
    Diamond.registered_imported Diamond.listing (by decide +kernel)
    (by decide +kernel : ClassId.defined "Top" ∈ Diamond.family)
  have hnames : (Diamond.history.names (.defined "Top")).filter Text.isDeclarable = ["b", "a"] := by
    rw [Diamond.names_history]
    decide +kernel
  have hrefused : (Diamond.history.names (.defined "Top")).filter
      (fun name => !Text.isDeclarable name) = ["not valid"] := by
    rw [Diamond.names_history]
    decide +kernel
  rw [← Diamond.history, ← Diamond.registered, hnames, hrefused, if_neg (List.cons_ne_nil _ _),
    Diamond.read_registered] at h
  obtain ⟨m, hrun, -, -, hentries, hlast⟩ := h
  refine ⟨m, hrun, hentries, fun e he hb => ?_⟩
  obtain ⟨v, hv, hentry⟩ := hlast e he
  rw [hb, Diamond.last?_history] at hv
  rw [hentry, Option.some.inj hv]

namespace Mute

open Stall (tap family forall_family)

/-- How a descriptor is read that refuses to tell the module. -/
def refuse : Value :=
  .function "refuse" "refuse" [{ name := "self" }, { name := "obj" }, { name := "cls" }] .null
    (.raises { kind := "ValueError", message := "no module" })

/-- A macroable class of which the module cannot be read. -/
def site : Site :=
  (Site.empty default)
    |>.addClass "Refusal" "Refusal" "Refusal" "app" [] .null [("__get__", refuse)]
    |>.addObject "refusal" (.defined "Refusal") []
    |>.addClass "Basket" "Basket" "Basket" "app" [rootClass] .null
      [("__module__", .objectRef "refusal")]

def calls : List RegistryCall := [.register (.defined "Basket") "tap" tap]

/-- The state after the macro was registered. -/
def registered : State := RegistryCall.runAll site.world calls site.state

theorem clan_state : Clan site.state family := by decide

theorem registered_state : ∀ c ∈ family, site.state.registered c = [] :=
  forall_family ⟨rfl, rfl⟩

end Mute

/-- A class that has registered a macro with a name that can be declared, and from which extracting fails. -/
theorem mute_extraction_fails :
    Clan Mute.site.state Stall.family ∧ (∀ c ∈ Stall.family, Mute.site.state.registered c = []) ∧
      (∀ call ∈ Mute.calls, call.target = .defined "Basket") ∧
      (RegistryCall.historyIn Mute.site.world Mute.calls Mute.site.state []).names (.defined "Basket") =
        ["tap"] ∧
      Text.isDeclarable "tap" = true ∧
      ((Extraction.extract Mute.site.world (Reach.of Mute.site.world) Extraction.storageFields
        (.cls (.defined "Basket"))).run Mute.registered).1 =
          .error (.raised { kind := "ValueError", message := "no module" }) :=
  ⟨Mute.clan_state, Mute.registered_state, by decide, by decide +kernel, by decide +kernel, rfl⟩

end MacroStubs
