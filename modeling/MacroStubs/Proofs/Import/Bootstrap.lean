import MacroStubs.Proofs.Import.Failing
import MacroStubs.Proofs.Import.Tracing
import MacroStubs.World.Build

/-! # Bootstrapping in order

Preparing an application imports its modules one after another, up to the first that fails. What was imported
before is not run again, what was registered stays, and its base path is put in front only where it is
missing.
-/

namespace MacroStubs

open Import (BodyEvent Course Fails Holds IsAbove IsParent begun)

variable {w : World} {σ τ ρ : State} {n p name : String} {events : List BodyEvent}

namespace Import

theorem IsAbove.of_isParent (h : IsParent p n) : IsAbove p n := by
  obtain ⟨part, h⟩ := h
  exact ⟨[part], List.cons_ne_nil _ _, h⟩

theorem IsAbove.trans {top : String} (h : IsAbove top p) (h' : IsAbove p n) : IsAbove top n := by
  obtain ⟨names, hne, hp⟩ := h
  obtain ⟨more, -, hn⟩ := h'
  exact ⟨names ++ more, by simp [hne], by rw [hn, hp, List.append_assoc]⟩

/-- Below a module on the way to another one there is a module. -/
theorem exists_child {part : String} {rest : List String}
    (h : Text.pieces '.' name = Text.pieces '.' p ++ part :: rest) :
    ∃ n, IsParent p n ∧ Text.pieces '.' name = Text.pieces '.' n ++ rest := by
  have hdots : ∀ x ∈ Text.pieces '.' p ++ [part], '.' ∉ x.toList := by
    intro x hx
    refine Text.not_mem_of_mem_pieces (c := '.') (s := name) ?_
    rw [h, List.append_cons]
    exact List.mem_append_left _ hx
  have hpieces := Text.pieces_dotted (by simp) hdots
  refine ⟨_, ⟨part, hpieces⟩, ?_⟩
  rw [hpieces, h, List.append_cons]

namespace Course

/-- Above a module that is imported or whose body began, each is imported unless its body failed, or unless
one below it was imported before without it. -/
def Explains (events : List BodyEvent) (σ τ : State) (name p : String) : Prop :=
  Holds p τ ∨ .failed p ∈ events ∨
    ¬ Holds p σ ∧ ∃ n, IsAbove p n ∧ (n = name ∨ IsAbove n name) ∧ Holds n σ

theorem explains_parent (hc : Course w events σ τ) (hp : IsParent p n) (hn : n = name ∨ IsAbove n name)
    (h : Explains events σ τ name n) : Explains events σ τ name p := by
  by_cases hσ : Holds p σ
  · exact .inl (hc.holds hσ).1
  have hbegan (hb : .began n ∈ events) : Explains events σ τ name p := by
    obtain ⟨before, after, rfl⟩ := List.append_of_mem hb
    have hfirst := (hc.parent_first rfl hp).resolve_left hσ
    exact (hc.holds_or_failed (List.mem_append_left _ hfirst)).imp_right .inl
  rcases h with hτ | hf | ⟨-, m, hm, hmname, hmσ⟩
  · rcases hc.holds_or_began hτ with h | h
    · exact .inr (.inr ⟨hσ, n, .of_isParent hp, hn, h⟩)
    · exact hbegan h
  · exact hbegan (hc.began_of_mem hf)
  · exact .inr (.inr ⟨hσ, m, (IsAbove.of_isParent hp).trans hm, hmname, hmσ⟩)

/-- What explains a module that is imported explains those above it. -/
theorem explains_above (hc : Course w events σ τ) (hτ : Holds name τ) (h : IsAbove p name) :
    Explains events σ τ name p := by
  obtain ⟨names, hne, hname⟩ := h
  induction names generalizing p with
  | nil => exact absurd rfl hne
  | cons part rest ih =>
    obtain ⟨n, hp, hn⟩ := exists_child hname
    cases rest with
    | nil =>
      have hsame : n = name := by
        rw [← Text.dotted_pieces n, ← Text.dotted_pieces name, hn, List.append_nil]
      exact hc.explains_parent hp (.inl hsame) (.inl (hsame ▸ hτ))
    | cons next later =>
      have hbelow : IsAbove n name := ⟨next :: later, List.cons_ne_nil _ _, hn⟩
      exact hc.explains_parent hp (.inr hbelow) (ih (List.cons_ne_nil _ _) hn)

end Course
end Import

namespace Bootstrap

/-- How bootstrapping ends: all modules are imported in their order, or those before the first whose import
fails, and then nothing is done but that. -/
def Ends (w : World) (modules : List String) (σ τ : State) : Except Failure Unit → Prop
  | .ok () => Attempted (importModule w) (modules.map (·, .ok ())) σ τ
  | .error f => ∃ before name after ρ, modules = before ++ name :: after ∧
      Attempted (importModule w) (before.map (·, .ok ())) σ ρ ∧
      (importModule w name).run ρ = (.error f, τ) ∧ Fails w name ρ f τ

theorem importAll_ends (w : World) (modules : List String) (σ : State) :
    ∃ result τ events, (importAll (importModule w) modules).run σ = (result, τ) ∧
      Course w events σ τ ∧ Ends w modules σ τ result := by
  induction modules generalizing σ with
  | nil => exact ⟨.ok (), σ, [], rfl, .rest (.of_modules rfl rfl rfl), .nil (.refl σ)⟩
  | cons name rest ih =>
    obtain ⟨host, hlog⟩ : ∃ host, (Run.debug reporter ("Bootstrapping " ++ name)).run σ =
      (.ok (), { σ with host }) := ⟨_, rfl⟩
    have hquiet : σ.SameImports { σ with host } := .of_modules rfl rfl rfl
    obtain ⟨events, himport⟩ := hasCourse_importModule w name { σ with host }
    rw [importAll, Run.bind_of_ok hlog, Run.run_bind]
    generalize hrun : (importModule w name).run { σ with host } = outcome at himport
    obtain ⟨result, ρ⟩ := outcome
    cases result with
    | error f =>
      have hcourse := (Course.rest hquiet).append himport
      exact ⟨.error f, ρ, _, rfl, hcourse, [], name, rest, { σ with host }, rfl, .nil ⟨host, rfl⟩, hrun,
        Import.fails_of_importModule hrun⟩
    | ok _ =>
      obtain ⟨result, τ, later, hrest, hlater, hends⟩ := ih ρ
      have hcourse := ((Course.rest hquiet).append himport).append hlater
      refine ⟨result, τ, _, hrest, hcourse, ?_⟩
      cases result with
      | ok _ => exact .cons ⟨host, rfl⟩ hrun hends
      | error f =>
        obtain ⟨before, failing, after, σ', rfl, hbefore, hfailing⟩ := hends
        exact ⟨name :: before, failing, after, σ', rfl, .cons ⟨host, rfl⟩ hrun hbefore, hfailing⟩

variable {modules : List String} {base : Option Path}

theorem holds_of_attempted {attempts : List (String × Except Failure Unit)}
    (ha : Attempted (importModule w) attempts σ τ) (hσ : Holds n σ) : Holds n τ := by
  induction ha with
  | nil h => exact hσ.agreesWith h
  | cons h hr _ ih =>
    obtain ⟨events, hc⟩ := hasCourse_importModule w _ _
    rw [hr] at hc
    exact ih (hc.holds (hσ.agreesWith h)).1

/-- Where all imports succeed each of the modules is imported. -/
theorem holds_of_ends (h : Ends w modules σ τ (.ok ())) (hn : n ∈ modules) : Holds n τ := by
  have ha : Attempted (importModule w) (modules.map (·, .ok ())) σ τ := h
  induction modules generalizing σ with
  | nil => cases hn
  | cons name rest ih =>
    cases ha with
    | cons hagrees hrun hlater =>
      rcases List.mem_cons.mp hn with rfl | hn
      · exact holds_of_attempted hlater (holds_of_importModule hrun)
      · exact ih hlater hn hlater

/-- Where modules are sought with a base path. -/
def pathWith (base : Option Path) (σ : State) : List String :=
  match base with
  | none => σ.searchPath
  | some base =>
    if rootOf base σ ∈ σ.searchPath then σ.searchPath else rootOf base σ :: σ.searchPath

theorem run_eq (w : World) (modules : List String) (base : Option Path) (σ : State) :
    ∃ host, (run (importModule w) modules base).run σ =
      (importAll (importModule w) modules).run { σ with searchPath := pathWith base σ, host } := by
  cases base with
  | none => exact ⟨σ.host, rfl⟩
  | some base =>
    obtain ⟨host, hpath⟩ := addPath_run base σ
    exact ⟨host, Run.bind_of_ok hpath⟩

theorem count_pathWith (base : Path) (σ : State) :
    (pathWith (some base) σ).count (rootOf base σ) = max 1 (σ.searchPath.count (rootOf base σ)) := by
  rw [pathWith]
  split
  · rename_i h
    exact (Nat.max_eq_right (List.count_pos_iff.mpr h)).symm
  · rename_i h
    rw [List.count_cons_self, List.count_eq_zero_of_not_mem h]
    rfl

/-- However the modules of a world register, import and fail, bootstrapping imports in order:
* the base path is put in front, where it is missing, before anything is imported, and it does not come to
  be there twice;
* all imports succeed, or those before the first that fails, which ends it with its failure: nothing is taken
  back then but modules whose bodies failed;
* where it succeeds each module is imported, and so are those above it, but one whose body failed, or that
  was missing while one below it was imported before;
* no body runs of a module that is imported, or again once it completed, and none before that of the module
  above. -/
theorem imports_in_order (w : World) (modules : List String) (base : Option Path) (σ : State) :
    ∃ result τ host events, (run (importModule w) modules base).run σ = (result, τ) ∧
      Course w events { σ with searchPath := pathWith base σ, host } τ ∧
      Ends w modules { σ with searchPath := pathWith base σ, host } τ result ∧
      (result = .ok () → ∀ name ∈ modules, Holds name τ ∧
        ∀ p, IsAbove p name → Course.Explains events σ τ name p) ∧
      τ.executed = σ.executed ++ begun events ∧
      (∀ n, Holds n σ → n ∉ begun events) ∧
      (∀ n, .completed n ∈ events → Holds n τ) ∧
      (events.Pairwise fun e e' => ∀ n, e = .completed n → e' ≠ .began n) ∧
      (∀ before after n p, events = before ++ .began n :: after → IsParent p n →
        Holds p σ ∨ .began p ∈ before) ∧
      (∃ added, τ.searchPath = added ++ pathWith base σ ∧ added.Nodup ∧
        ∀ root ∈ added, root ∉ pathWith base σ) ∧
      ∀ b, base = some b →
        τ.searchPath.count (rootOf b σ) = max 1 (σ.searchPath.count (rootOf b σ)) := by
  obtain ⟨host, hrun⟩ := run_eq w modules base σ
  obtain ⟨result, τ, events, hall, hc, hends⟩ :=
    importAll_ends w modules { σ with searchPath := pathWith base σ, host }
  obtain ⟨added, hτ, hnodup, hadded⟩ := hc.searchPath
  refine ⟨result, τ, host, events, hrun.trans hall, hc, hends, ?_, hc.executed, ?_,
    fun n hn => hc.holds_of_completed hn, hc.completed_once, fun before after n p => hc.parent_first,
    ⟨added, hτ, hnodup, hadded⟩, ?_⟩
  · rintro rfl name hname
    have himported := holds_of_ends hends hname
    exact ⟨himported, fun p hp => hc.explains_above himported hp⟩
  · exact fun n hn hbegun => (hc.holds hn).2 (Import.mem_begun_iff.mp hbegun)
  · rintro b rfl
    have hroot : rootOf b σ ∈ pathWith (some b) σ := by
      refine List.count_pos_iff.mp ?_
      rw [count_pathWith]
      omega
    have hnone : added.count (rootOf b σ) = 0 :=
      List.count_eq_zero_of_not_mem fun h => hadded _ h hroot
    rw [hτ, List.count_append, hnone, Nat.zero_add]
    exact count_pathWith b σ

namespace Hamper

/-- A package that imports its only module, and then reads a macro that nobody may have registered. -/
def site : Site :=
  ((Site.empty default).addClass "Basket" "Basket" "Basket" "app" [rootClass] .null []).addModules
    [{ name := "a", body := [.bootstrap ["a.b"] none, .get (.cls (.defined "Basket")) "tap"] },
     { name := "a.b" }]

def tap : Value := .function "tap" "tap" [] .null (.returns .null)

def boot (modules : List String) : Run Unit := run (importModule site.world) modules none

/-- The state in which the import of the package has failed, and the macro has been registered. -/
def retried : State :=
  (Session.runFor site.world (importModule site.world)
    (.register (.cls (.defined "Basket")) (.str "tap") tap)).run ((boot ["a"]).run site.state).2 |>.2

end Hamper

open Hamper in
/-- The package of a module that is imported may be missing afterwards: its own import failed when it had
imported the module, and it is not imported anew for the sake of the module. -/
theorem parent_missing_afterwards :
    IsAbove "a" "a.b" ∧ ((boot ["a"]).run site.state).1.toOption = none ∧
      ((boot ["a.b"]).run retried).1.toOption = some () ∧
      Import.isImported ((boot ["a.b"]).run retried).2 "a.b" = true ∧
      Import.isImported ((boot ["a.b"]).run retried).2 "a" = false ∧
      ((boot ["a"]).run retried).1.toOption = some () := by
  refine ⟨⟨["b"], List.cons_ne_nil _ _, by decide +kernel⟩, ?_⟩
  decide +kernel

end Bootstrap
end MacroStubs
