import MacroStubs.Proofs.Traversal
import MacroStubs.World.Call
import MacroStubs.World.Import

/-! # Kept conditions

Steps that keep a condition on the state, whether they fail or not. A condition on the imports alone is
kept by whatever changes classes, objects and attributes.
-/

namespace MacroStubs

variable {α β : Type} {A : State → Prop} {σ τ ρ : State}

/-- A step that keeps a condition, also if it fails. -/
def Run.Keeps (A : State → Prop) (x : Run α) : Prop := ∀ σ, A σ → A (x.run σ).2

namespace Run.Keeps

variable {x : Run α} {f : α → Run β}

theorem pure (a : α) : (Pure.pure a : Run α).Keeps A := fun _ h => h

theorem throw (failure : Failure) : (MonadExcept.throw failure : Run α).Keeps A := fun _ h => h

theorem read (g : State → Except Failure α) : (Run.read g).Keeps A := fun _ h => h

theorem modify {g : State → State} (h : ∀ σ, A σ → A (g σ)) : (modify g : Run Unit).Keeps A := h

theorem set (h : A τ) : (MonadStateOf.set τ : Run PUnit).Keeps A := fun _ _ => h

theorem bind (hx : x.Keeps A) (hf : ∀ a, (f a).Keeps A) : (x >>= f).Keeps A := by
  intro σ hσ
  have hfirst := hx σ hσ
  rw [Run.run_bind]
  generalize x.run σ = outcome at hfirst
  obtain ⟨result, τ⟩ := outcome
  cases result with
  | ok a => exact hf a τ hfirst
  | error failure => exact hfirst

/-- The state at hand meets the condition. -/
theorem bind_get {f : State → Run β} (hf : ∀ σ, A σ → (f σ).Keeps A) :
    ((MonadState.get : Run State) >>= f).Keeps A := fun σ hσ => hf σ hσ σ hσ

/-- Only what is given goes on. -/
theorem bind_ofExcept {e : Except Failure α} (hf : ∀ a, e = .ok a → (f a).Keeps A) :
    (Run.ofExcept e >>= f).Keeps A := by
  cases e with
  | ok a => exact hf a rfl
  | error failure => exact fun _ hσ => hσ

theorem attempt (hx : x.Keeps A) : (Run.attempt x).Keeps A := hx

end Run.Keeps

namespace State

/-- States in which the same modules are imported, after the same bodies were run, and sought in the same
places. -/
structure SameImports (σ τ : State) : Prop where
  imported : ∀ name, Import.isImported τ name = Import.isImported σ name
  executed : τ.executed = σ.executed
  searchPath : τ.searchPath = σ.searchPath

namespace SameImports

theorem of_modules (hm : τ.modules = σ.modules) (he : τ.executed = σ.executed)
    (hs : τ.searchPath = σ.searchPath) : σ.SameImports τ :=
  ⟨fun name => by rw [Import.isImported, Import.isImported, hm], he, hs⟩

theorem trans (h : σ.SameImports τ) (h' : τ.SameImports ρ) : σ.SameImports ρ where
  imported name := (h'.imported name).trans (h.imported name)
  executed := h'.executed.trans h.executed
  searchPath := h'.searchPath.trans h.searchPath

theorem setModuleAttribute (σ : State) (module name : String) (v : Value) :
    σ.SameImports (σ.setModuleAttribute module name v) := by
  rw [State.setModuleAttribute]
  cases hm : σ.modules.get? module with
  | none => exact .of_modules rfl rfl rfl
  | some space =>
    refine ⟨fun other => ?_, rfl, rfl⟩
    rw [Import.isImported, Import.isImported]
    by_cases h : module = other
    · subst h
      rw [Table.get?_put_self, hm]
      rfl
    · rw [Table.get?_put_of_ne _ _ h]

theorem putInClass (σ : State) (c : ClassId) (name : String) (v : Value) :
    σ.SameImports (σ.putInClass c name v) := by
  cases c <;> exact .of_modules rfl rfl rfl

theorem settle {n : Nat} (h : Layout.settle n σ = some τ) : σ.SameImports τ := by
  induction n generalizing σ with
  | zero =>
    cases h
    exact .of_modules rfl rfl rfl
  | succ n ih =>
    obtain ⟨classes, -, h⟩ := Option.bind_eq_some_iff.mp h
    have hlater := ih h
    exact ⟨hlater.imported, hlater.executed, hlater.searchPath⟩

theorem withBases {id : String} {bases : List ClassId} (h : Layout.withBases σ id bases = .ok τ) :
    σ.SameImports τ := by
  unfold Layout.withBases at h
  dsimp only at h
  split at h
  · cases h
  · split at h
    · cases h
    · split at h
      · cases h
      · cases h
        exact .of_modules rfl rfl rfl
      · split at h
        · rename_i hsettle
          cases h
          have hlater := settle hsettle
          exact ⟨hlater.imported, hlater.executed, hlater.searchPath⟩
        · cases h

end SameImports

/-- A condition on the imports of a state. -/
def OnImports (A : State → Prop) : Prop := ∀ ⦃σ τ⦄, A σ → σ.SameImports τ → A τ

end State

namespace State.OnImports

variable (hA : State.OnImports A)
include hA

theorem onHost (f : Host → Host) : (Run.onHost f).Keeps A := fun _ hσ =>
  hA hσ (.of_modules rfl rfl rfl)

theorem closed : Run.Closed fun _ x => x.Keeps A where
  pure := .pure
  throw := .throw
  read := .read
  get := fun _ h => h
  log _ := hA.onHost _
  bind := .bind
  attempt := .attempt

end State.OnImports
end MacroStubs
