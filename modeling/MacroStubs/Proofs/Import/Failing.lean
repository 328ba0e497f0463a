import MacroStubs.Proofs.Import.Course

/-! # Imports that fail

Why the import of a module fails, and what it leaves: where the search ended, nothing is taken back, and
where a body failed, all that it did stays but its module. A module that no world has, below one that is
imported, leads to no more than the import of the module above.
-/

namespace MacroStubs.Import

section Missing

variable {w : World} {r : Reach} {σ τ : State} {body : ModuleInfo → Run Unit}
variable {part : String} {parents above below : List String}

/-- What the search fails with for a missing module below one that is imported. -/
def fault (r : Reach) (σ : State) (part : String) (parents : List String) : Failure :=
  match r.find? σ (.moduleRef (joined parents)) pathField with
  | .error f => f
  | .ok none => .notPackage (joined (part :: parents)) (joined parents)
  | .ok (some _) => .moduleMissing (joined (part :: parents))

/-- The search for a missing module fails with what can be handled if the module above tells its path, or
does not, or fails to with what can be handled. -/
theorem isHandled_fault (h : ∀ f, r.find? σ (.moduleRef (joined parents)) pathField = .error f →
    f.isHandled = true) (part : String) : (fault r σ part parents).isHandled = true := by
  rw [fault]
  split
  · rename_i f hf
    exact h f hf
  · rfl
  · rfl

/-- A module that is neither imported nor one of the world. -/
def IsMissing (w : World) (σ : State) (name : String) : Prop :=
  ¬ Holds name σ ∧ w.module? name = none

theorem seek_of_isMissing (hne : parents ≠ []) (h : IsMissing w σ (joined (part :: parents))) :
    (seek w r body part parents).run σ = (.error (fault r σ part parents), σ) := by
  obtain ⟨parent, later, rfl⟩ := List.exists_cons_of_ne_nil hne
  have henter : enter w body part (parent :: later) =
      throw (.moduleMissing (joined (part :: parent :: later))) := by
    rw [enter, h.2]
  have hnew : ¬ isImported σ (joined (part :: parent :: later)) = true := h.1
  unfold seek
  rw [Run.get_bind, if_neg hnew, List.isEmpty_cons, if_neg (by decide), henter, Run.run_bind,
    requirePackage_run, fault]
  rcases r.find? σ (.moduleRef (joined (parent :: later))) pathField with f | _ | v <;> rfl

/-- Importing a missing module below others that are missing imports what is above them all, and fails. -/
theorem ensure_of_isMissing (hb : ∀ name m, (body m).Keeps (Holds name)) (ha : above ≠ [])
    (h : (ensure w r body above).run σ = (.ok (), τ)) (hne : below ≠ [])
    (hm : ∀ names ≠ [], names <:+ below → IsMissing w τ (joined (names ++ above))) :
    ∃ part, (ensure w r body (below ++ above)).run σ = (.error (fault r τ part above), τ) := by
  induction below with
  | nil => exact absurd rfl hne
  | cons part rest ih =>
    have hkeeps (name : String) (hσ : Holds name σ) : Holds name τ := by
      have hτ := keeps_ensure (w := w) (r := r) (hb name) above σ hσ
      rwa [h] at hτ
    have hmissing := hm _ (List.cons_ne_nil _ _) List.suffix_rfl
    have hnew : ¬ Holds (joined (part :: (rest ++ above))) σ := fun hσ => hmissing.1 (hkeeps _ hσ)
    rw [List.cons_append]
    cases rest with
    | nil =>
      refine ⟨part, ?_⟩
      rw [List.nil_append] at hnew ⊢
      by_cases hσ : Holds (joined above) σ
      · obtain ⟨first, later, rfl⟩ := List.exists_cons_of_ne_nil ha
        rw [ensure_of_holds hσ] at h
        cases h
        rw [ensure_of_settled hnew (.inr hσ), seek_of_isMissing ha hmissing]
      · rw [ensure_of_unsettled hnew ha hσ, Run.run_bind, h]
        exact seek_of_isMissing ha hmissing
    | cons next later =>
      have hrest : next :: later ≠ [] := List.cons_ne_nil _ _
      obtain ⟨last, hlast⟩ := ih hrest fun names hn hs => hm names hn (hs.trans (List.suffix_cons _ _))
      have hparents : ¬ Holds (joined (next :: later ++ above)) σ := fun hσ =>
        (hm _ hrest (List.suffix_cons _ _)).1 (hkeeps _ hσ)
      refine ⟨last, ?_⟩
      rw [ensure_of_unsettled hnew (List.append_ne_nil_of_left_ne_nil hrest _) hparents, Run.run_bind, hlast]

variable {module : String} {names : List String}

theorem joined_append (module : String) (hne : names ≠ []) :
    joined (names ++ (Text.pieces '.' module).reverse) =
      module ++ "." ++ ".".intercalate names.reverse := by
  rw [joined, List.reverse_append, List.reverse_reverse,
    String.intercalate_append_of_ne_nil (Text.pieces_ne_nil _ _) (by simpa), Text.dotted_pieces]

/-- Importing a missing module below one that can be imported does what the import of that one does, and
fails. -/
theorem importModule_of_isMissing (h : (importModule w module).run σ = (.ok (), τ)) (hne : names ≠ [])
    (hdots : ∀ name ∈ names, '.' ∉ name.toList)
    (hm : ∀ first ≠ [], first <+: names → IsMissing w τ (module ++ "." ++ ".".intercalate first)) :
    ∃ part, (importModule w (module ++ "." ++ ".".intercalate names)).run σ =
      (.error (fault (Reach.of w) τ part (Text.pieces '.' module).reverse), τ) := by
  have habsolute := isAbsolute_of_importModule h
  have hlonger : IsAbsolute (module ++ "." ++ ".".intercalate names) := by
    refine ⟨?_, by simp⟩
    obtain ⟨c, cs, hcs⟩ := List.exists_cons_of_ne_nil
      fun hnil : module.toList = [] => habsolute.2 (String.toList_eq_nil_iff.mp hnil)
    have hhead := habsolute.1
    rw [hcs] at hhead
    simpa [hcs] using hhead
  rw [importModule_of_isAbsolute habsolute] at h
  rw [importModule_of_isAbsolute hlonger, Text.pieces_append, Text.pieces_dotted hne hdots,
    List.reverse_append]
  refine ensure_of_isMissing (fun _ m => keeps_bodyWithin _ m)
    (fun hnil => Text.pieces_ne_nil '.' module (List.reverse_eq_nil_iff.mp hnil)) h
    (fun hnil => hne (List.reverse_eq_nil_iff.mp hnil)) fun later hlater hsuffix => ?_
  rw [joined_append module hlater]
  exact hm _ (by simpa) (by rwa [← List.reverse_suffix, List.reverse_reverse])

end Missing

variable {w : World} {σ τ ρ : State} {f : Failure} {name : String}

/-- A module that is not imported is sought where the one right above it, if there is one, has been. -/
structure Reached (w : World) (name : String) (σ τ : State) : Prop where
  new : ¬ Holds name τ
  above : (∀ p, ¬ IsParent p name) ∧ τ = σ ∨
    ∃ p, IsParent p name ∧ (importModule w p).run σ = (.ok (), τ)

/-- How the import of a module fails. -/
inductive Fails (w : World) : String → State → Failure → State → Prop
  /-- The name is none of a module. -/
  | name {name : String} {σ : State} {f : Failure} (h : ¬ IsAbsolute name) : Fails w name σ f σ
  | above {name p : String} {σ τ : State} {f : Failure} (hp : IsParent p name) (h : Fails w p σ f τ) :
      Fails w name σ f τ
  | missing {name : String} {σ τ : State} (hr : Reached w name σ τ) (hm : w.module? name = none) :
      Fails w name σ (.moduleMissing name) τ
  /-- The module above does not tell where others are sought. -/
  | pathless {name p : String} {σ τ : State} (hr : Reached w name σ τ) (hp : IsParent p name)
      (hpath : (Reach.of w).find? τ (.moduleRef p) pathField = .ok none) :
      Fails w name σ (.notPackage name p) τ
  | path {name p : String} {σ τ : State} {f : Failure} (hr : Reached w name σ τ) (hp : IsParent p name)
      (hpath : (Reach.of w).find? τ (.moduleRef p) pathField = .error f) : Fails w name σ f τ
  | body {name : String} {σ τ ρ : State} {m : ModuleInfo} {f : Failure} (hr : Reached w name σ τ)
      (hm : w.module? name = some m)
      (hb : (bodyWithin w w.modules.length m).run (entered w m τ) = (.error f, ρ)) :
      Fails w name σ f (without name ρ)
  /-- The module raises when its body has run. -/
  | raised {name : String} {σ τ ρ : State} {m : ModuleInfo} {t : Thrown} (hr : Reached w name σ τ)
      (hm : w.module? name = some m)
      (hb : (bodyWithin w w.modules.length m).run (entered w m τ) = (.ok (), ρ))
      (ht : m.failure = some t) : Fails w name σ (.raised t) (without name ρ)

variable {part : String} {parents parts : List String}

theorem fails_of_enter (hr : Reached w (joined (part :: parents)) σ τ)
    (h : (enter w (bodyWithin w w.modules.length) part parents).run τ = (.error f, ρ)) :
    Fails w (joined (part :: parents)) σ f ρ := by
  rw [enter] at h
  split at h
  · rename_i hm
    cases h
    exact .missing hr hm
  · rename_i m hm
    have hname : m.name = joined (part :: parents) := eq_of_beq (List.find?_some hm :)
    rw [Run.run_bind, load_run] at h
    generalize hbody : (bodyWithin w w.modules.length m).run (entered w m τ) = outcome at h
    obtain ⟨result, last⟩ := outcome
    cases result with
    | error g =>
      cases h
      rw [hname]
      exact .body hr hm hbody
    | ok _ =>
      cases ht : m.failure with
      | none =>
        rw [ht] at h
        cases hp : parents.isEmpty <;> rw [hp] at h <;> cases h
      | some t =>
        rw [ht] at h
        cases h
        rw [hname]
        exact .raised hr hm hbody ht

theorem fails_of_seek (hdots : ∀ x ∈ part :: parents, '.' ∉ x.toList)
    (hr : Holds (joined (part :: parents)) τ ∨ Reached w (joined (part :: parents)) σ τ)
    (h : (seek w (Reach.of w) (bodyWithin w w.modules.length) part parents).run τ = (.error f, ρ)) :
    Fails w (joined (part :: parents)) σ f ρ := by
  unfold seek at h
  rw [Run.get_bind] at h
  split at h
  · cases h
  · rename_i hnew
    have hr := hr.resolve_left hnew
    split at h
    · exact fails_of_enter hr h
    · rename_i hne
      have hp : IsParent (joined parents) (joined (part :: parents)) :=
        (isParent_joined_iff hdots).mpr ⟨fun hnil => hne (by rw [hnil]; rfl), rfl⟩
      rw [Run.run_bind, requirePackage_run] at h
      rcases hpath : (Reach.of w).find? τ (.moduleRef (joined parents)) pathField with g | _ | v
      · rw [hpath] at h
        cases h
        exact .path hr hp hpath
      · rw [hpath] at h
        cases h
        exact .pathless hr hp hpath
      · rw [hpath] at h
        exact fails_of_enter hr h

theorem IsAbsolute.of_append {s t : String} (h : IsAbsolute (s ++ "." ++ t)) : IsAbsolute s := by
  have hhead := h.1
  simp only [String.toList_append] at hhead
  have hne : s.toList ≠ [] := fun hnil => by simp [hnil] at hhead
  obtain ⟨c, cs, hcs⟩ := List.exists_cons_of_ne_nil hne
  rw [hcs] at hhead
  exact ⟨by rw [hcs]; exact hhead, fun hs => hne (String.toList_eq_nil_iff.mpr hs)⟩

theorem IsAbsolute.of_joined (h : IsAbsolute (joined (part :: parents))) (hne : parents ≠ [])
    (hdots : ∀ x ∈ parents, '.' ∉ x.toList) : IsAbsolute (joined parents) := by
  have happend := joined_append (joined parents) (List.cons_ne_nil part [])
  rw [pieces_joined hne hdots, List.singleton_append] at happend
  exact .of_append (happend ▸ h)

theorem importModule_joined (hne : parts ≠ []) (hdots : ∀ x ∈ parts, '.' ∉ x.toList)
    (h : IsAbsolute (joined parts)) :
    importModule w (joined parts) = ensure w (Reach.of w) (bodyWithin w w.modules.length) parts := by
  rw [importModule_of_isAbsolute h, pieces_joined hne hdots]

theorem fails_of_ensure (hdots : ∀ x ∈ parts, '.' ∉ x.toList) (ha : IsAbsolute (joined parts))
    (h : (ensure w (Reach.of w) (bodyWithin w w.modules.length) parts).run σ = (.error f, τ)) :
    Fails w (joined parts) σ f τ := by
  induction parts generalizing f τ with
  | nil => cases h
  | cons part parents ih =>
    have hrest := (List.forall_mem_cons.mp hdots).2
    have hparent (hne : parents ≠ []) : IsParent (joined parents) (joined (part :: parents)) :=
      (isParent_joined_iff hdots).mpr ⟨hne, rfl⟩
    have htop (hnil : parents = []) (p : String) : ¬ IsParent p (joined (part :: parents)) := fun hp =>
      ((isParent_joined_iff hdots).mp hp).1 hnil
    by_cases hσ : Holds (joined (part :: parents)) σ
    · rw [ensure_of_holds hσ] at h
      cases h
    · by_cases hp : parents = [] ∨ Holds (joined parents) σ
      · rw [ensure_of_settled hσ hp] at h
        refine fails_of_seek hdots (.inr ⟨hσ, ?_⟩) h
        by_cases hnil : parents = []
        · exact .inl ⟨htop hnil, rfl⟩
        · exact .inr ⟨_, hparent hnil, importModule_again (ha.of_joined hnil hrest) (hp.resolve_left hnil)⟩
      · obtain ⟨hne, hp⟩ := not_or.mp hp
        have habove := ha.of_joined hne hrest
        rw [ensure_of_unsettled hσ hne hp, Run.run_bind] at h
        generalize hfirst : (ensure w (Reach.of w) (bodyWithin w w.modules.length) parents).run σ = outcome at h
        obtain ⟨result, ρ⟩ := outcome
        cases result with
        | error g =>
          cases h
          exact .above (hparent hne) (ih hrest habove hfirst)
        | ok _ =>
          refine fails_of_seek hdots ?_ h
          by_cases hρ : Holds (joined (part :: parents)) ρ
          · exact .inl hρ
          · exact .inr ⟨hρ, .inr ⟨_, hparent hne, by rw [importModule_joined hne hrest habove, hfirst]⟩⟩

/-- The import of a module that fails does so in one of these ways. -/
theorem fails_of_importModule (h : (importModule w name).run σ = (.error f, τ)) : Fails w name σ f τ := by
  by_cases ha : IsAbsolute name
  · rw [importModule_of_isAbsolute ha] at h
    have hfails := fails_of_ensure (fun x hx => Text.not_mem_of_mem_pieces (List.mem_reverse.mp hx))
      ((joined_pieces name).symm ▸ ha) h
    rwa [joined_pieces] at hfails
  · have hτ : τ = σ := by
      rw [importModule, within_eq, byName] at h
      split at h
      · cases h
        rfl
      · split at h
        · cases h
          rfl
        · rename_i hhead hempty
          exact absurd ⟨hhead, fun he => hempty (String.isEmpty_iff.mpr he)⟩ ha
    exact hτ ▸ .name ha

end MacroStubs.Import
