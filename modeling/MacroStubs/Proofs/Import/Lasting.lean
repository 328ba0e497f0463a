import MacroStubs.Proofs.Actions
import MacroStubs.Proofs.Collection.Attempts
import MacroStubs.Proofs.Import.Calls
import MacroStubs.Proofs.Text.Pieces

/-! # Lasting imports

A module that is imported stays imported, whatever else is imported and whatever fails: only a module whose
body fails is forgotten, and no body runs of a module that is imported. So importing a module once more does
nothing.
-/

namespace MacroStubs

variable {w : World} {r : Reach} {σ σ' τ ρ : State} {name : String}

theorem Table.get?_erase_of_ne {κ α : Type} [BEq κ] [LawfulBEq κ] (t : Table κ α) {k k' : κ}
    (h : k ≠ k') : get? (erase t k) k' = get? t k' := by
  induction t with
  | nil => rfl
  | cons e t ih =>
    rw [erase] at ih ⊢
    by_cases he : e.1 = k
    · rw [List.filter_cons_of_neg (by simp [he]), ih, get?_cons, if_neg (by simp [he, h])]
    · rw [List.filter_cons_of_pos (by simp [he]), get?_cons, get?_cons, ih]

theorem State.AgreesWith.symm (h : σ.AgreesWith τ) : τ.AgreesWith σ := by
  obtain ⟨host, rfl⟩ := h
  exact ⟨σ.host, rfl⟩

namespace Import

/-- That a module is imported. -/
def Holds (name : String) (σ : State) : Prop := isImported σ name = true

theorem onImports_holds (name : String) : State.OnImports (Holds name) := fun _ _ hσ h =>
  (h.imported name).trans hσ

theorem Holds.agreesWith (hσ : Holds name σ) (h : σ.AgreesWith τ) : Holds name τ := by
  obtain ⟨host, rfl⟩ := h
  exact hσ

theorem sameImports_putAttributes (module : String) (attributes : List (String × Value)) (σ : State) :
    σ.SameImports (putAttributes module attributes σ) := by
  rw [putAttributes]
  induction attributes generalizing σ with
  | nil => exact .of_modules rfl rfl rfl
  | cons e rest ih => exact (State.SameImports.setModuleAttribute σ _ _ _).trans (ih _)

variable {body : ModuleInfo → Run Unit} {m : ModuleInfo}

theorem holds_entered (h : Holds name σ ∨ m.name = name) : Holds name (entered w m σ) := by
  refine onImports_holds name ?_ (sameImports_putAttributes _ _ _)
  rw [Holds, isImported]
  by_cases hm : m.name = name
  · rw [hm, Table.get?_put_self]
    rfl
  · rw [Table.get?_put_of_ne _ _ hm]
    exact h.resolve_right hm

theorem holds_without (h : Holds name σ) (hm : m.name ≠ name) : Holds name (without m.name σ) := by
  rw [Holds, isImported, without, Table.get?_erase_of_ne _ hm]
  exact h

/-- Running the body of another module keeps a module. -/
theorem keeps_load (hb : (body m).Keeps (Holds name)) (hm : m.name ≠ name) :
    (load w body m).Keeps (Holds name) := by
  intro σ hσ
  have hbody := hb _ (holds_entered (w := w) (m := m) (.inl hσ))
  rw [load_run]
  generalize (body m).run (entered w m σ) = outcome at hbody
  obtain ⟨result, τ⟩ := outcome
  cases result with
  | error f => exact holds_without hbody hm
  | ok _ =>
    cases m.failure with
    | none => exact hbody
    | some t => exact holds_without hbody hm

variable {part : String} {parents : List String}

/-- Importing a module that is imported does nothing. -/
theorem ensure_of_holds (h : Holds (joined (part :: parents)) σ) :
    (ensure w r body (part :: parents)).run σ = (.ok (), σ) := by
  rw [Holds] at h
  rw [ensure_cons, Run.get_bind, if_pos h]
  rfl

/-- A module is sought at once where its parents, if it has any, are imported. -/
theorem ensure_of_settled (h : ¬ Holds (joined (part :: parents)) σ)
    (hp : parents = [] ∨ Holds (joined parents) σ) :
    (ensure w r body (part :: parents)).run σ = (seek w r body part parents).run σ := by
  rw [Holds] at h hp
  rw [ensure_cons, Run.get_bind, if_neg h, if_pos hp]

/-- Else its parents are imported first. -/
theorem ensure_of_unsettled (h : ¬ Holds (joined (part :: parents)) σ) (hne : parents ≠ [])
    (hp : ¬ Holds (joined parents) σ) : (ensure w r body (part :: parents)).run σ =
      (ensure w r body parents >>= fun _ => seek w r body part parents).run σ := by
  rw [Holds] at h hp
  rw [ensure_cons, Run.get_bind, if_neg h, if_neg (not_or.mpr ⟨hne, hp⟩)]

/-- Asking for the path of the module above changes nothing. -/
theorem requirePackage_run (r : Reach) (module parent : String) (σ : State) :
    (ensure.requirePackage r module parent).run σ =
      (match r.find? σ (.moduleRef parent) pathField with
        | .error f => .error f
        | .ok none => .error (.notPackage module parent)
        | .ok (some _) => .ok (), σ) := by
  have hread : (Run.read fun σ => r.find? σ (.moduleRef parent) pathField).run σ =
    (r.find? σ (.moduleRef parent) pathField, σ) := rfl
  rw [ensure.requirePackage, Run.run_bind, hread]
  rcases r.find? σ (.moduleRef parent) pathField with f | _ | v <;> rfl

theorem keeps_requirePackage (module parent : String) :
    (ensure.requirePackage r module parent).Keeps (Holds name) := by
  intro σ hσ
  rw [requirePackage_run]
  exact hσ

theorem keeps_seek (hb : ∀ m, (body m).Keeps (Holds name)) (part : String) (parents : List String) :
    (seek w r body part parents).Keeps (Holds name) := by
  unfold seek
  refine .bind_get fun σ hσ => ?_
  split
  · exact .pure ()
  · rename_i hnew
    have henter : (enter w body part parents).Keeps (Holds name) := by
      rw [enter]
      split
      · exact .throw _
      · rename_i m hm
        -- the module is not the one that is imported
        have hname : m.name = joined (part :: parents) := eq_of_beq (List.find?_some hm :)
        have hne : m.name ≠ name := by
          rintro rfl
          exact hnew (hname ▸ hσ)
        refine .bind (keeps_load (hb m) hne) fun _ => ?_
        split
        · exact .modify fun ρ hρ => onImports_holds name hρ (.setModuleAttribute _ _ _ _)
        · exact .pure ()
    split
    · exact henter
    · exact .bind (keeps_requirePackage _ _) fun _ => henter

theorem keeps_ensure (hb : ∀ m, (body m).Keeps (Holds name)) (parts : List String) :
    (ensure w r body parts).Keeps (Holds name) := by
  induction parts with
  | nil => exact .pure ()
  | cons part parents ih =>
    have hseek : (seek w r body part parents).Keeps (Holds name) := keeps_seek hb part parents
    rw [ensure_cons]
    refine .bind_get fun σ _ => ?_
    split
    · exact .pure ()
    · split
      · exact hseek
      · exact .bind ih fun _ => hseek

theorem keeps_byName (hb : ∀ m, (body m).Keeps (Holds name)) (module : String) :
    (byName w r body module).Keeps (Holds name) := by
  rw [byName]
  split
  · exact .throw _
  · split
    · exact .throw _
    · exact keeps_ensure hb _

end Import

namespace Session

open Import (Holds onImports_holds)

variable {importModule : String → Run Unit}

/-- An action keeps a module if the imports do that it leads to. -/
theorem keeps_run (h : ∀ module, (importModule module).Keeps (Holds name)) (a : Action) :
    (run w importModule a).Keeps (Holds name) := by
  have hA := onImports_holds name
  have hP := hA.closed
  have hr := Reach.closed_of hA w
  have hfile (path : Path) (text : String) : (Generator.writeFile path text).Keeps (Holds name) :=
    .bind (.read _) fun _ => hA.onHost _
  have hparts : Parts (fun _ x => x.Keeps (Holds name)) w (Reach.of w).hostless importModule :=
    { toClosed := hP
      imports := h
      invoke := hr.invoke
      registry := closed_registryEntries hr
      write := Write.closed_write hr
      addPath := fun base => by
        rw [Bootstrap.addPath]
        refine .bind_get fun σ _ => ?_
        dsimp only
        split
        · exact .pure ()
        · exact .bind (.modify fun _ hσ => hσ) fun _ => hP.debug _ _ }
  rw [Reach.hostless_of] at hparts
  refine hparts.act fun identifiers path _ => ?_
  refine .bind_get fun σ _ => .bind (Generator.closed_write hP h (hfile _)).attempt fun result => ?_
  split
  · exact .bind_get fun _ _ => .pure _
  · refine .bind_get fun _ _ => ?_
    split <;> exact .pure _

theorem keeps_body (h : ∀ module, (importModule module).Keeps (Holds name)) (actions : List Action) :
    (actions.forM (runFor w importModule)).Keeps (Holds name) :=
  have hP := (onImports_holds name).closed
  hP.forM fun a _ => closed_runFor hP (keeps_run h a)

end Session

namespace Import

/-- What the body of a module does, where imports lead to at most `depth` further ones. -/
def bodyWithin (w : World) : Nat → ModuleInfo → Run Unit
  | 0 => fun _ => throw .nestingTooDeep
  | depth + 1 => fun m => m.body.forM (Session.runFor w (within w depth))

theorem within_eq (w : World) (depth : Nat) :
    within w depth = byName w (Reach.of w) (bodyWithin w depth) := by
  cases depth <;> rfl

theorem keeps_bodyWithin (depth : Nat) (m : ModuleInfo) : (bodyWithin w depth m).Keeps (Holds name) := by
  induction depth generalizing m with
  | zero => exact .throw _
  | succ depth ih =>
    refine Session.keeps_body (fun module => ?_) _
    rw [within_eq]
    exact keeps_byName ih _

/-- A module that is imported stays imported. -/
theorem keeps_within (depth : Nat) (module : String) : (within w depth module).Keeps (Holds name) := by
  rw [within_eq]
  exact keeps_byName (keeps_bodyWithin depth) _

variable {body : ModuleInfo → Run Unit} {m : ModuleInfo} {part : String} {parents parts : List String}

theorem holds_of_load (hb : (body m).Keeps (Holds m.name)) (h : (load w body m).run σ = (.ok (), τ)) :
    Holds m.name τ := by
  have hbody := hb _ (holds_entered (w := w) (σ := σ) (.inr rfl))
  rw [load_run] at h
  generalize (body m).run (entered w m σ) = outcome at h hbody
  obtain ⟨result, ρ⟩ := outcome
  cases result with
  | error f => cases h
  | ok _ =>
    cases hf : m.failure with
    | none =>
      rw [hf] at h
      cases h
      exact hbody
    | some t =>
      rw [hf] at h
      cases h

theorem holds_of_enter (hb : ∀ m, (body m).Keeps (Holds (joined (part :: parents))))
    (h : (enter w body part parents).run σ = (.ok (), τ)) : Holds (joined (part :: parents)) τ := by
  rw [enter] at h
  split at h
  · cases h
  · rename_i m hm
    have hname : m.name = joined (part :: parents) := eq_of_beq (List.find?_some hm :)
    obtain ⟨_, ρ, hload, h⟩ := Run.run_bind_eq_ok.mp h
    have hρ : Holds m.name ρ := holds_of_load (hname ▸ hb m) hload
    rw [hname] at hρ
    split at h
    · cases h
      exact onImports_holds _ hρ (.setModuleAttribute _ _ _ _)
    · cases h
      exact hρ

theorem holds_of_seek (hb : ∀ m, (body m).Keeps (Holds (joined (part :: parents))))
    (h : (seek w r body part parents).run σ = (.ok (), τ)) : Holds (joined (part :: parents)) τ := by
  unfold seek at h
  rw [Run.get_bind] at h
  split at h
  · rename_i hσ
    cases h
    exact hσ
  · split at h
    · exact holds_of_enter hb h
    · obtain ⟨_, ρ, -, h⟩ := Run.run_bind_eq_ok.mp h
      exact holds_of_enter hb h

/-- A module whose import succeeds is imported then. -/
theorem holds_of_ensure (hb : ∀ m, (body m).Keeps (Holds (joined (part :: parents))))
    (h : (ensure w r body (part :: parents)).run σ = (.ok (), τ)) : Holds (joined (part :: parents)) τ := by
  by_cases hσ : Holds (joined (part :: parents)) σ
  · rw [ensure_of_holds hσ] at h
    cases h
    exact hσ
  · by_cases hp : parents = [] ∨ Holds (joined parents) σ
    · rw [ensure_of_settled hσ hp] at h
      exact holds_of_seek hb h
    · obtain ⟨hne, hp⟩ := not_or.mp hp
      rw [ensure_of_unsettled hσ hne hp] at h
      obtain ⟨_, ρ, -, h⟩ := Run.run_bind_eq_ok.mp h
      exact holds_of_seek hb h

theorem joined_pieces (name : String) : joined (Text.pieces '.' name).reverse = name := by
  rw [joined, List.reverse_reverse, Text.dotted_pieces]

theorem exists_parts (name : String) :
    ∃ part parents, (Text.pieces '.' name).reverse = part :: parents ∧ joined (part :: parents) = name := by
  obtain ⟨part, parents, h⟩ := List.exists_cons_of_ne_nil
    (fun h => Text.pieces_ne_nil '.' name (List.reverse_eq_nil_iff.mp h))
  exact ⟨part, parents, h, h ▸ joined_pieces name⟩

/-- A name by which a module can be sought. -/
def IsAbsolute (name : String) : Prop := name.toList.head? ≠ some '.' ∧ name ≠ ""

theorem importModule_of_isAbsolute (h : IsAbsolute name) : importModule w name =
    ensure w (Reach.of w) (bodyWithin w w.modules.length) (Text.pieces '.' name).reverse := by
  rw [importModule, within_eq, byName, if_neg h.1, if_neg fun he => h.2 (String.isEmpty_iff.mp he)]

theorem isAbsolute_of_importModule (h : (importModule w name).run σ = (.ok (), τ)) : IsAbsolute name := by
  rw [importModule, within_eq, byName] at h
  split at h
  · cases h
  · rename_i hhead
    split at h
    · cases h
    · rename_i hempty
      exact ⟨hhead, fun he => hempty (String.isEmpty_iff.mpr he)⟩

end Import

/-- A module whose import succeeds is imported then. -/
theorem holds_of_importModule (h : (importModule w name).run σ = (.ok (), τ)) : Import.Holds name τ := by
  rw [Import.importModule_of_isAbsolute (Import.isAbsolute_of_importModule h)] at h
  obtain ⟨part, parents, hparts, hname⟩ := Import.exists_parts name
  rw [hparts] at h
  exact hname ▸ Import.holds_of_ensure (fun m => Import.keeps_bodyWithin _ m) h

/-- Importing a module once more does nothing. -/
theorem importModule_again (h : Import.IsAbsolute name) (hσ : Import.Holds name σ) :
    (importModule w name).run σ = (.ok (), σ) := by
  obtain ⟨part, parents, hparts, hname⟩ := Import.exists_parts name
  rw [Import.importModule_of_isAbsolute h, hparts]
  exact Import.ensure_of_holds (hname ▸ hσ)

/-- A module that can be imported in a state can be imported in the one that its import leads to as well, and
nothing more becomes of it. -/
theorem exists_importModule (h : (importModule w name).run σ = (.ok (), ρ)) (hρ : ρ.AgreesWith σ')
    (hτ : τ = σ ∨ σ'.AgreesWith τ) :
    ∃ ρ', (importModule w name).run τ = (.ok (), ρ') ∧ σ'.AgreesWith ρ' := by
  rcases hτ with rfl | hτ
  · exact ⟨ρ, h, hρ.symm⟩
  · exact ⟨τ, importModule_again (Import.isAbsolute_of_importModule h)
      ((holds_of_importModule h).agreesWith (hρ.trans hτ)), hτ⟩

end MacroStubs
