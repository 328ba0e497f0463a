import MacroStubs.Proofs.Import.Course

/-! # Runs as courses

Every import, and every action of a body, leads to its state by bodies of modules that begin, complete or
fail: each function is followed once, and the depth of imports within each other is what the induction is on.
-/

namespace MacroStubs

/-- A step that leads to another state by bodies of modules, if any. -/
def Run.HasCourse {α : Type} (w : World) (x : Run α) : Prop :=
  ∀ σ, ∃ events, Import.Course w events σ (x.run σ).2

namespace Run.HasCourse

variable {w : World} {α β : Type} {x : Run α} {f : α → Run β}

theorem of_keeps (h : ∀ σ : State, x.Keeps σ.SameImports) : x.HasCourse w := fun σ =>
  ⟨[], .rest (h σ σ (.of_modules rfl rfl rfl))⟩

theorem bind (hx : x.HasCourse w) (hf : ∀ a, (f a).HasCourse w) : (x >>= f).HasCourse w := by
  intro σ
  obtain ⟨events, hfirst⟩ := hx σ
  rw [Run.run_bind]
  generalize x.run σ = outcome at hfirst
  obtain ⟨result, τ⟩ := outcome
  cases result with
  | error _ => exact ⟨events, hfirst⟩
  | ok a =>
    obtain ⟨later, hlater⟩ := hf a τ
    exact ⟨events ++ later, hfirst.append hlater⟩

end Run.HasCourse

theorem State.onImports_sameImports (σ : State) : State.OnImports σ.SameImports := fun _ _ h h' => h.trans h'

theorem Run.closed_hasCourse (w : World) : Run.Closed fun _ x => x.HasCourse w where
  pure a := .of_keeps fun _ => .pure a
  throw f := .of_keeps fun _ => .throw f
  read g := .of_keeps fun _ => .read g
  get := .of_keeps fun σ => σ.onImports_sameImports.closed.get
  log records := .of_keeps fun σ => σ.onImports_sameImports.closed.log records
  bind := .bind
  attempt hx := hx

namespace Import

variable {w : World} {σ : State} {m : ModuleInfo} {depth : Nat} {part : String} {parents parts : List String}

/-- Running the body of a module that is not imported, below one that is. -/
theorem exists_course_load (hm : w.module? m.name = some m) (hnew : ¬ Holds m.name σ)
    (hparent : ∀ p, IsParent p m.name → Holds p σ) (hb : (bodyWithin w depth m).HasCourse w) :
    ∃ events, Course w events σ ((load w (bodyWithin w depth) m).run σ).2 := by
  obtain ⟨inner, hinner⟩ := hb (entered w m σ)
  rw [load_run]
  generalize hrun : (bodyWithin w depth m).run (entered w m σ) = outcome at hinner
  obtain ⟨result, τ⟩ := outcome
  cases result with
  | error f => exact ⟨_, .body hm hnew hparent hrun hinner (.failed f)⟩
  | ok _ =>
    cases hf : m.failure with
    | none => exact ⟨_, .body hm hnew hparent hrun hinner (.completed hf)⟩
    | some t => exact ⟨_, .body hm hnew hparent hrun hinner (.raised hf)⟩

theorem exists_course_enter (hb : ∀ m, (bodyWithin w depth m).HasCourse w)
    (hdots : ∀ x ∈ part :: parents, '.' ∉ x.toList) (hnew : ¬ Holds (joined (part :: parents)) σ)
    (hparent : parents = [] ∨ Holds (joined parents) σ) :
    ∃ events, Course w events σ ((enter w (bodyWithin w depth) part parents).run σ).2 := by
  have hP := Run.closed_hasCourse w
  rw [enter]
  split
  · exact hP.throw _ σ
  · rename_i m hm
    have hname : m.name = joined (part :: parents) := eq_of_beq (List.find?_some hm :)
    have habove : ∀ p, IsParent p m.name → Holds p σ := by
      intro p hp
      obtain ⟨hne, rfl⟩ := (isParent_joined_iff hdots).mp (hname ▸ hp)
      exact hparent.resolve_left hne
    obtain ⟨events, hload⟩ := exists_course_load (hname ▸ hm) (hname ▸ hnew) habove (hb m)
    have hbind : (if !parents.isEmpty then modify fun σ => σ.setModuleAttribute (joined parents) part
        (.moduleRef (joined (part :: parents))) else pure () : Run Unit).HasCourse w := by
      split
      · exact .of_keeps fun ρ => .modify fun τ hτ => hτ.trans (.setModuleAttribute _ _ _ _)
      · exact hP.pure ()
    rw [Run.run_bind]
    generalize (load w (bodyWithin w depth) m).run σ = outcome at hload
    obtain ⟨result, τ⟩ := outcome
    cases result with
    | error _ => exact ⟨events, hload⟩
    | ok _ =>
      obtain ⟨later, hlater⟩ := hbind τ
      exact ⟨events ++ later, hload.append hlater⟩

theorem exists_course_seek {r : Reach} (hb : ∀ m, (bodyWithin w depth m).HasCourse w)
    (hdots : ∀ x ∈ part :: parents, '.' ∉ x.toList) (hparent : parents = [] ∨ Holds (joined parents) σ) :
    ∃ events, Course w events σ ((seek w r (bodyWithin w depth) part parents).run σ).2 := by
  unfold seek
  rw [Run.get_bind]
  split
  · exact Run.closed_hasCourse w |>.pure () σ
  · rename_i hnew
    have henter := exists_course_enter hb hdots hnew hparent
    split
    · exact henter
    · rw [Run.run_bind, requirePackage_run]
      rcases r.find? σ (.moduleRef (joined parents)) pathField with f | _ | v
      · exact ⟨[], .rest (.of_modules rfl rfl rfl)⟩
      · exact ⟨[], .rest (.of_modules rfl rfl rfl)⟩
      · exact henter

theorem exists_course_ensure {r : Reach} (hb : ∀ m, (bodyWithin w depth m).HasCourse w)
    (hdots : ∀ x ∈ parts, '.' ∉ x.toList) :
    (ensure w r (bodyWithin w depth) parts).HasCourse w := by
  induction parts with
  | nil => exact (Run.closed_hasCourse w).pure ()
  | cons part parents ih =>
    intro σ
    have ih := ih (List.forall_mem_cons.mp hdots).2
    by_cases h : Holds (joined (part :: parents)) σ
    · rw [ensure_of_holds h]
      exact ⟨[], .rest (.of_modules rfl rfl rfl)⟩
    · by_cases hp : parents = [] ∨ Holds (joined parents) σ
      · rw [ensure_of_settled h hp]
        exact exists_course_seek hb hdots hp
      · obtain ⟨hne, hp⟩ := not_or.mp hp
        rw [ensure_of_unsettled h hne hp, Run.run_bind]
        obtain ⟨events, hfirst⟩ := ih σ
        generalize hrun : (ensure w r (bodyWithin w depth) parents).run σ = outcome at hfirst
        obtain ⟨result, τ⟩ := outcome
        cases result with
        | error _ => exact ⟨events, hfirst⟩
        | ok _ =>
          obtain ⟨parent, later, rfl⟩ := List.exists_cons_of_ne_nil hne
          have hτ : Holds (joined (parent :: later)) τ :=
            holds_of_ensure (fun m => keeps_bodyWithin depth m) hrun
          obtain ⟨more, hlater⟩ := exists_course_seek (r := r) hb hdots (.inr hτ)
          exact ⟨events ++ more, hfirst.append hlater⟩

theorem hasCourse_byName {r : Reach} (hb : ∀ m, (bodyWithin w depth m).HasCourse w) (name : String) :
    (byName w r (bodyWithin w depth) name).HasCourse w := by
  have hP := Run.closed_hasCourse w
  rw [byName]
  split
  · exact hP.throw _
  · split
    · exact hP.throw _
    · exact exists_course_ensure hb fun x hx => Text.not_mem_of_mem_pieces (List.mem_reverse.mp hx)

end Import

namespace Bootstrap

/-- The place where modules are sought below a base path. -/
def rootOf (base : Path) (σ : State) : String := (σ.host.files.cwd.resolve base).text

/-- A base path is added in front exactly if it is missing. -/
theorem addPath_run (base : Path) (σ : State) : ∃ host, (addPath base).run σ = (.ok (), { σ with
    searchPath := if rootOf base σ ∈ σ.searchPath then σ.searchPath else rootOf base σ :: σ.searchPath
    host }) := by
  have hroot : rootOf base σ = (σ.host.files.cwd.resolve base).text := rfl
  rw [addPath, Run.get_bind]
  dsimp only
  rw [← hroot]
  by_cases h : rootOf base σ ∈ σ.searchPath
  · rw [if_pos (List.contains_iff_mem.mpr h), if_pos h]
    exact ⟨σ.host, rfl⟩
  · rw [if_neg (fun hc => h (List.contains_iff_mem.mp hc)), if_neg h]
    exact ⟨_, rfl⟩

theorem hasCourse_addPath (w : World) (base : Path) : (addPath base).HasCourse w := by
  intro σ
  obtain ⟨host, hrun⟩ := addPath_run base σ
  rw [hrun]
  split
  · exact ⟨[], .rest (.of_modules rfl rfl rfl)⟩
  · rename_i h
    have hrest : State.SameImports { σ with searchPath := rootOf base σ :: σ.searchPath }
      { σ with searchPath := rootOf base σ :: σ.searchPath, host } := .of_modules rfl rfl rfl
    exact ⟨[], (Import.Course.path h).append (.rest hrest)⟩

end Bootstrap

namespace Session

variable {w : World} {importModule : String → Run Unit}

/-- An action leads on by bodies of modules if the imports do that it leads to. -/
theorem hasCourse_run (h : ∀ module, (importModule module).HasCourse w) (a : Action) :
    (run w importModule a).HasCourse w := by
  have hP := Run.closed_hasCourse w
  have hr (σ : State) := Reach.closed_of σ.onImports_sameImports w
  have hfile (path : Path) (text : String) : (Generator.writeFile path text).HasCourse w :=
    .of_keeps fun σ => .bind (.read _) fun _ => σ.onImports_sameImports.onHost _
  have hparts : Parts (fun _ x => x.HasCourse w) w (Reach.of w).hostless importModule :=
    { toClosed := hP
      imports := h
      invoke := fun v name arguments keywords => .of_keeps fun σ => (hr σ).invoke v name arguments keywords
      registry := fun target => .of_keeps fun σ => closed_registryEntries (hr σ) target
      write := fun target name v => .of_keeps fun σ => Write.closed_write (hr σ) target name v
      addPath := Bootstrap.hasCourse_addPath w }
  rw [Reach.hostless_of] at hparts
  refine hparts.act fun identifiers path _ => ?_
  refine hP.bind_get fun σ => hP.bind (hP.attempt (Generator.closed_write hP h (hfile _))) fun result => ?_
  split
  · exact hP.bind_get fun _ => hP.pure _
  · refine hP.bind_get fun _ => ?_
    split <;> exact hP.pure _

end Session

namespace Import

variable {w : World}

theorem hasCourse_bodyWithin (depth : Nat) (m : ModuleInfo) : (bodyWithin w depth m).HasCourse w := by
  have hP := Run.closed_hasCourse w
  induction depth generalizing m with
  | zero => exact hP.throw _
  | succ depth ih =>
    refine hP.forM fun a _ => Session.closed_runFor hP (Session.hasCourse_run (fun module => ?_) a)
    rw [within_eq]
    exact hasCourse_byName ih _

end Import

/-- Importing leads on by bodies of modules, whether it fails or not. -/
theorem hasCourse_importModule (w : World) (name : String) : (importModule w name).HasCourse w := by
  rw [importModule, Import.within_eq]
  exact Import.hasCourse_byName (Import.hasCourse_bodyWithin _) name

end MacroStubs
