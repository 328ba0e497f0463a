import MacroStubs.Proofs.Actions
import MacroStubs.Proofs.Destination.Logging
import MacroStubs.Proofs.Host.Telling

/-! # Runs beside a place

Which steps leave alone what lies at a place. Calls and attributes have no files to write, reports go to
logs that are kept elsewhere, and so importing leaves the place alone unless the body of a module has an
action of its own that writes there.
-/

namespace MacroStubs

variable {α β : Type} {s : Place} {w : World} {r : Reach}

/-- What lies at a place. -/
def State.node? (s : Place) (σ : State) : Option Node := σ.host.files.node? s.names

/-- Timing a step adds reports to what the step does. -/
theorem Run.timed_run {x : Run α} {σ τ : State} {result : Except Failure α} (reporter name : String)
    (h : x.run σ = (result, τ)) : ∃ host,
    (Run.timed reporter name x).run σ = (result, { τ with host }) ∧ τ.host.Logged host := by
  have hlogged (records : List Record) := Host.logged_logAll τ.host records
  rw [Run.timed, Run.attempt_bind, h]
  cases result with
  | ok a => exact ⟨_, rfl, hlogged [_]⟩
  | error failure =>
    dsimp only
    split
    · exact ⟨_, rfl, hlogged [_]⟩
    · exact ⟨_, rfl, .refl _⟩

/-- A step that changes nothing at a place, as long as logs are kept elsewhere. -/
def Run.Spares (s : Place) (x : Run α) : Prop :=
  ∀ σ : State, σ.host.IsApart s → σ.host.Spares s (x.run σ).2.host

namespace Run.Spares

variable {x : Run α} {f : α → Run β}

/-- A step that does not touch the host. -/
theorem of_host (h : ∀ σ, (x.run σ).2.host = σ.host) : x.Spares s := fun σ _ => by
  rw [h]
  exact .refl s σ.host

theorem modify {g : State → State} (h : ∀ σ, (g σ).host = σ.host) : (modify g : Run Unit).Spares s :=
  of_host h

theorem bind (hx : x.Spares s) (hf : ∀ a, (f a).Spares s) : (x >>= f).Spares s := by
  intro σ ha
  have hfirst := hx σ ha
  rw [Run.run_bind]
  generalize x.run σ = outcome at hfirst
  obtain ⟨result, τ⟩ := outcome
  cases result with
  | ok a => exact hfirst.trans (hf a τ (hfirst.isApart ha))
  | error failure => exact hfirst

theorem bind_get {f : State → Run β} (hf : ∀ σ, σ.host.IsApart s → (f σ).Spares s) :
    ((MonadState.get : Run State) >>= f).Spares s := fun σ hσ => hf σ hσ σ hσ

/-- What is printed lies at no place. -/
theorem of_blind (hx : x.IsBlind) : x.Spares s := by
  intro σ _
  obtain ⟨printed, h⟩ := hx σ
  have hhost : (x.run σ).2.host = σ.host.printing printed :=
    congrArg (fun outcome => outcome.2.host) (h σ.host)
  rw [hhost]
  exact ⟨.refl _ _, rfl, rfl⟩

end Run.Spares

theorem Run.Closed.spares (s : Place) : Run.Closed fun _ x => x.Spares s where
  pure _ := .of_host fun _ => rfl
  throw _ := .of_host fun _ => rfl
  read _ := .of_host fun _ => rfl
  get := .of_host fun _ => rfl
  log records := fun σ ha => (Host.logged_logAll σ.host records).spares ha
  bind := .bind
  attempt hx := hx

namespace Generator

variable {importModule : String → Run Unit} {identifiers : List String}

theorem writeFile_run (path : Path) (text : String) (σ : State) :
    (writeFile path text).run σ = match σ.host.files.write path text with
      | .ok files => (.ok (), { σ with host := { σ.host with files } })
      | .error f => (.error f, σ) := by
  have hread : (Run.read fun σ => σ.host.files.write path text).run σ =
    (σ.host.files.write path text, σ) := rfl
  rw [writeFile, Run.run_bind, hread]
  cases σ.host.files.write path text <;> rfl

theorem spares_writeFile {path : Path} (hp : ¬ s.IsOf path) (text : String) :
    (writeFile path text).Spares s := by
  intro σ ha
  rw [writeFile_run]
  split
  · rename_i files hfiles
    exact ⟨Files.spares_write hfiles (ha.cwd ▸ hp), rfl, rfl⟩
  · exact .refl s σ.host

theorem spares_collected (h : ∀ module, (importModule module).Spares s) :
    (collected w r importModule identifiers).Spares s :=
  closed_collected (fun _ _ m _ => h m) (Run.Closed.spares s)

/-- Writing a stub changes nothing at another place. -/
theorem spares_write (h : ∀ module, (importModule module).Spares s) {path : Path}
    (hp : ¬ s.IsOf path) : (write w r importModule identifiers path).Spares s :=
  closed_write (Run.Closed.spares s) h (spares_writeFile hp)

end Generator

/-- An action that does not write a stub to a place itself. -/
def Action.Spares (s : Place) : Action → Prop
  | .write _ path => ¬ s.IsOf (s.cwd.join (Path.ofText path))
  | _ => True

/-- No body of a module has an action that writes to a place. -/
def World.Spares (s : Place) (w : World) : Prop := ∀ m ∈ w.modules, ∀ a ∈ m.body, a.Spares s

theorem Bootstrap.spares_addPath (base : Path) : (addPath base).Spares s := by
  have hP := Run.Closed.spares s
  rw [addPath]
  refine hP.bind_get fun σ => ?_
  dsimp only
  split
  · exact hP.pure ()
  · exact hP.bind (.modify fun _ => rfl) fun _ => hP.debug _ _

namespace Session

variable {importModule : String → Run Unit}

theorem spares_parts (h : ∀ module, (importModule module).Spares s) :
    Parts (fun _ x => x.Spares s) w r.hostless importModule where
  toClosed := Run.Closed.spares s
  imports := h
  invoke _ _ _ _ := .of_blind (Reach.closed_isBlind.invoke _ _ _ _)
  registry target := .of_blind (closed_registryEntries Reach.closed_isBlind target)
  write _ _ _ := .of_blind (Write.closed_write Reach.closed_isBlind _ _ _)
  addPath := Bootstrap.spares_addPath

theorem spares_act (h : ∀ module, (importModule module).Spares s) {a : Action} (ha : a.Spares s) :
    (act w r.hostless importModule a).Spares s := by
  have hP := Run.Closed.spares s
  refine (spares_parts h).act fun identifiers path hwrite => ?_
  subst hwrite
  -- where the action writes is told by the working directory, which is that of the place
  refine .bind_get fun σ hσ => hP.bind (hP.attempt (Generator.spares_write h ?_)) fun result => ?_
  · rw [hσ.cwd]
    exact ha
  · split
    · exact hP.bind_get fun _ => hP.pure _
    · refine hP.bind_get fun _ => ?_
      split <;> exact hP.pure _

/-- What the body of a module does. -/
theorem spares_runFor (h : ∀ module, (importModule module).Spares s) {a : Action}
    (ha : a.Spares s) : (runFor w importModule a).Spares s := by
  refine closed_runFor (Run.Closed.spares s) ?_
  rw [run, ← Reach.hostless_of]
  exact spares_act h ha

end Session

namespace Import

variable {body : ModuleInfo → Run Unit}

theorem host_setModuleAttribute (module name : String) (v : Value) (σ : State) :
    (σ.setModuleAttribute module name v).host = σ.host := by
  rw [State.setModuleAttribute]
  split <;> rfl

theorem host_putAttributes (module : String) (attributes : List (String × Value)) (σ : State) :
    (putAttributes module attributes σ).host = σ.host := by
  rw [putAttributes]
  induction attributes generalizing σ with
  | nil => rfl
  | cons e rest ih =>
    obtain ⟨name, v⟩ := e
    rw [List.foldl_cons, ih]
    exact host_setModuleAttribute module name v σ

theorem spares_load {m : ModuleInfo} (hb : (body m).Spares s) : (load w body m).Spares s := by
  have hP := Run.Closed.spares s
  have hforget (name : String) : (load.forget name).Spares s := .modify fun _ => rfl
  rw [load]
  refine hP.bind (.modify fun _ => rfl) fun _ =>
    hP.bind (.modify (host_putAttributes _ _)) fun _ => hP.bind (hP.attempt hb) fun result => ?_
  cases result with
  | error f => exact hP.bind (hforget _) fun _ => hP.throw _
  | ok _ =>
    dsimp only
    split
    · exact hP.pure ()
    · exact hP.bind (hforget _) fun _ => hP.throw _

theorem spares_byName (hb : ∀ m ∈ w.modules, (body m).Spares s) (name : String) :
    (byName w r body name).Spares s :=
  closed_byName (Run.Closed.spares s) (fun m hm => spares_load (hb m hm))
    (fun _ _ _ => .modify (host_setModuleAttribute _ _ _)) name

theorem spares_within (hw : w.Spares s) (depth : Nat) (name : String) :
    (within w depth name).Spares s := by
  have hP := Run.Closed.spares s
  induction depth generalizing name with
  | zero => exact spares_byName (fun _ _ => hP.throw _) name
  | succ depth ih =>
    exact spares_byName (fun m hm => hP.forM fun a ha => Session.spares_runFor ih (hw m hm a ha)) name

end Import

/-- Importing changes nothing at a place that no module writes to. -/
theorem spares_importModule (hw : w.Spares s) (name : String) : (importModule w name).Spares s :=
  Import.spares_within hw _ name

end MacroStubs
