import MacroStubs.Proofs.Outcome
import MacroStubs.Generator
import MacroStubs.World.Import

/-! # Traversals

A property of steps that reading, failing and reporting have, and that sequences of such steps keep, is
one of every step of a collection if imports have it, and one of imports if loading a module has it. Each
function is followed once; what a property says does not matter.
-/

namespace MacroStubs

variable {α β : Type} {w : World} {r : Reach} {importModule : String → Run Unit}

/-- A property that steps have which read, fail or report, and steps that are made of such. -/
structure Run.Closed (P : (α : Type) → Run α → Prop) : Prop where
  pure : ∀ {α : Type} (a : α), P α (Pure.pure a)
  throw : ∀ {α : Type} (failure : Failure), P α (throw failure)
  read : ∀ {α : Type} (g : State → Except Failure α), P α (Run.read g)
  get : P State MonadState.get
  log : ∀ records : List Record, P Unit (Run.onHost (·.logAll records))
  bind : ∀ {α β : Type} {x : Run α} {f : α → Run β}, P α x → (∀ a, P β (f a)) → P β (x >>= f)
  attempt : ∀ {α : Type} {x : Run α}, P α x → P _ (Run.attempt x)

variable {P : (α : Type) → Run α → Prop}

namespace Run.Closed

variable {x : Run α} {f : α → Run β}

theorem ofExcept (hP : Run.Closed P) (e : Except Failure α) : P α (Run.ofExcept e) :=
  hP.read fun _ => e

theorem report (hP : Run.Closed P) (level : Level) (reporter message : String) :
    P Unit (Run.report level reporter message) := hP.log [{ level, reporter, message }]

theorem debug (hP : Run.Closed P) (reporter message : String) :
    P Unit (Run.debug reporter message) := hP.report _ _ _

theorem bind_get (hP : Run.Closed P) {f : State → Run β} (hf : ∀ σ, P β (f σ)) :
    P β (MonadState.get >>= f) := hP.bind hP.get hf

theorem map (hP : Run.Closed P) (hx : P α x) (g : α → β) : P β (g <$> x) := by
  rw [map_eq_pure_bind]
  exact hP.bind hx fun a => hP.pure _

theorem mapM (hP : Run.Closed P) (hf : ∀ a, P β (f a)) (as : List α) : P _ (as.mapM f) := by
  induction as with
  | nil => exact hP.pure []
  | cons a as ih =>
    rw [List.mapM_cons]
    exact hP.bind (hf a) fun _ => hP.bind ih fun _ => hP.pure _

/-- A failure that is reported and swallowed, or passed on. -/
theorem swallow (hP : Run.Closed P) {a : α} (failure : Failure) (reporter message : String) :
    P α (if failure.isHandled then do
        Run.debug reporter message
        Pure.pure a
      else MonadExcept.throw failure) := by
  split
  · exact hP.bind (hP.debug _ _) fun _ => hP.pure a
  · exact hP.throw _

theorem timed (hP : Run.Closed P) (hx : P α x) (reporter name : String) :
    P α (Run.timed reporter name x) := by
  rw [Run.timed]
  refine hP.bind (hP.attempt hx) fun result => ?_
  cases result with
  | ok a => exact hP.bind_get fun _ => hP.bind (hP.debug _ _) fun _ => hP.pure a
  | error failure =>
    dsimp only
    split
    · exact hP.bind_get fun _ => hP.bind (hP.report _ _ _) fun _ => hP.throw _
    · exact hP.throw _

end Run.Closed

namespace Resolution

theorem closed_follow (hP : Run.Closed P) (module : String) (v : Value) (path : List String) :
    P _ (follow r module v path) := by
  induction path generalizing v with
  | nil => exact hP.pure _
  | cons name rest ih =>
    rw [follow]
    refine hP.bind_get fun σ => ?_
    split
    · exact ih _
    · split
      · exact hP.pure none
      · exact hP.swallow _ _ _

theorem closed_load (hP : Run.Closed P) {module : String}
    (h : P _ (Run.attempt (importModule module))) (path : List String) :
    P _ (load r importModule module path) := by
  rw [load]
  split
  · exact hP.pure none
  · refine hP.bind h fun result => ?_
    split
    · exact closed_follow hP _ _ _
    · split
      · exact hP.pure none
      · exact hP.swallow _ _ _

theorem closed_loadFirst (hP : Run.Closed P) {splits : List (String × List String)}
    (h : ∀ e ∈ splits, P _ (Run.attempt (importModule e.1))) :
    P _ (loadFirst r importModule splits) := by
  induction splits with
  | nil => exact hP.pure none
  | cons e rest ih =>
    obtain ⟨module, path⟩ := e
    obtain ⟨hm, hrest⟩ := List.forall_mem_cons.mp h
    rw [loadFirst]
    refine hP.bind (closed_load hP hm path) fun found => ?_
    split
    · exact ih hrest
    · exact ih hrest
    · exact hP.pure _

/-- The modules that the reading of an identifier may import. -/
def modulesOf (identifier : List Char) : List String :=
  match identifier.dropWhile (· ≠ ':') with
  | _ :: _ => [String.ofList (identifier.takeWhile (· ≠ ':'))]
  | [] => (splits (Text.pieces '.' (String.ofList identifier))).map (·.1)

theorem closed_candidate? (hP : Run.Closed P) {identifier : List Char}
    (h : ∀ m ∈ modulesOf identifier, P _ (Run.attempt (importModule m))) :
    P _ (candidate? r importModule identifier) := by
  rw [modulesOf] at h
  rw [candidate?]
  split
  · rename_i hs
    rw [hs] at h
    exact closed_load hP (h _ List.mem_cons_self) _
  · rename_i hs
    rw [hs] at h
    exact closed_loadFirst hP fun e he => h e.1 (List.mem_map_of_mem he)

/-- Resolving an identifier does nothing but attempt to import the modules that it may mean. -/
theorem closed_resolve (hP : Run.Closed P) {identifier : String}
    (h : ∀ m ∈ modulesOf (Text.trim identifier).toList, P _ (Run.attempt (importModule m))) :
    P _ (resolve r importModule identifier) := by
  have hskip (message : String) : P (Option Value) (do
      Run.debug reporter message
      pure none) := hP.bind (hP.debug _ _) fun _ => hP.pure none
  rw [resolve]
  split
  · exact hP.pure none
  · refine hP.bind (closed_candidate? hP h) fun found => ?_
    split
    · split
      · exact hP.pure _
      · exact hskip _
    · exact hskip _

theorem closed_resolveFrom (hP : Run.Closed P) {identifiers : List String}
    (h : ∀ id ∈ identifiers, ∀ m ∈ modulesOf (Text.trim id).toList,
      P _ (Run.attempt (importModule m)))
    (done : Resolution) : P _ (resolveFrom r importModule done identifiers) := by
  induction identifiers generalizing done with
  | nil => exact hP.pure _
  | cons id rest ih =>
    obtain ⟨hid, hrest⟩ := List.forall_mem_cons.mp h
    rw [resolveFrom]
    refine hP.bind (closed_resolve hP hid) fun found => ?_
    split
    · exact ih hrest _
    · split
      · exact hP.bind (hP.debug _ _) fun _ => ih hrest _
      · exact ih hrest _

end Resolution

namespace Extraction

variable {cls : Value}

theorem closed_storage? (hP : Run.Closed P) (fields : List String) :
    P _ (storage? w r cls fields) := by
  induction fields with
  | nil => exact hP.pure none
  | cons field rest ih =>
    rw [storage?]
    refine hP.bind_get fun σ => ?_
    split
    · exact ih
    · split
      · exact hP.pure _
      · exact hP.bind (hP.read _) fun _ => hP.bind (hP.debug _ _) fun _ => hP.pure none

theorem closed_refuse (hP : Run.Closed P) (key : Value) : P _ (declarable.refuse w r cls key) :=
  hP.bind (hP.read _) fun _ => hP.bind (hP.read _) fun _ => hP.report _ _ _

theorem closed_declarable (hP : Run.Closed P) (entries : List (Value × Value)) :
    P _ (declarable w r cls entries) := by
  induction entries with
  | nil => exact hP.pure []
  | cons e rest ih =>
    obtain ⟨key, v⟩ := e
    rw [declarable]
    split
    · split
      · exact hP.bind_get fun _ => hP.bind ih fun _ => hP.pure _
      · exact hP.bind (closed_refuse hP key) fun _ => ih
    · exact hP.bind (closed_refuse hP key) fun _ => ih

/-- Extracting the macros of a class reads and reports. -/
theorem closed_extract (hP : Run.Closed P) (fields : List String) : P _ (extract w r fields cls) := by
  rw [extract]
  refine hP.bind (closed_storage? hP fields) fun found => ?_
  split
  · exact hP.bind (hP.read _) fun _ => hP.bind (hP.read _) fun _ =>
      hP.bind (hP.debug _ _) fun _ => hP.pure none
  · refine hP.bind (closed_declarable hP _) fun entries => ?_
    split
    · exact hP.bind (hP.read _) fun _ => hP.bind (hP.debug _ _) fun _ => hP.pure none
    · exact hP.bind (hP.read _) fun _ => hP.bind (hP.read _) fun _ => hP.pure _

end Extraction

namespace Import

variable {body : ModuleInfo → Run Unit} {part : String} {parents : List String}

/-- What imports a module that is sought. -/
def enter (w : World) (body : ModuleInfo → Run Unit) (part : String) (parents : List String) : Run Unit :=
  match w.module? (joined (part :: parents)) with
  | none => throw (.moduleMissing (joined (part :: parents)))
  | some m => do
    load w body m
    if !parents.isEmpty then
      modify fun σ => σ.setModuleAttribute (joined parents) part (.moduleRef (joined (part :: parents)))

/-- What imports a module whose parents are imported: it is sought below them, unless their import has
imported it already. -/
def seek (w : World) (r : Reach) (body : ModuleInfo → Run Unit) (part : String) (parents : List String) :
    Run Unit := do
  if isImported (← get) (joined (part :: parents)) then pure ()
  else if parents.isEmpty then enter w body part parents
  else do
    ensure.requirePackage r (joined (part :: parents)) (joined parents)
    enter w body part parents

/-- A module is sought once its parents, if it has any, are imported. -/
theorem ensure_cons : ensure w r body (part :: parents) = (do
    let σ ← get
    if isImported σ (joined (part :: parents)) then pure ()
    else if parents = [] ∨ isImported σ (joined parents) = true then seek w r body part parents
    else do
      ensure w r body parents
      seek w r body part parents) := by
  have hrun (σ : State) : (ensure w r body (part :: parents)).run σ =
      (if isImported σ (joined (part :: parents)) then pure ()
        else if parents = [] ∨ isImported σ (joined parents) = true then seek w r body part parents
        else do
          ensure w r body parents
          seek w r body part parents : Run Unit).run σ := by
    rw [ensure, Run.get_bind]
    split
    · rfl
    · cases parents with
      | nil => rfl
      | cons parent later =>
        rw [List.isEmpty_cons, if_pos (by rfl), Run.get_bind]
        cases isImported σ (joined (parent :: later)) with
        | true => rfl
        | false => rfl
  exact funext hrun

section

variable (hP : Run.Closed P) (hload : ∀ m ∈ w.modules, P _ (load w body m))
  (hput : ∀ module name v, P _ (modify fun σ : State => σ.setModuleAttribute module name v))
include hP hload hput

theorem closed_seek (part : String) (parents : List String) : P _ (seek w r body part parents) := by
  have henter : P _ (enter w body part parents) := by
    rw [enter]
    split
    · exact hP.throw _
    · rename_i m hm
      refine hP.bind (hload m (List.mem_of_find?_eq_some hm)) fun _ => ?_
      split
      · exact hput _ _ _
      · exact hP.pure ()
  have hpackage (module parent : String) : P _ (ensure.requirePackage r module parent) := by
    refine hP.bind (hP.read _) fun found => ?_
    split
    · exact hP.pure ()
    · exact hP.throw _
  unfold seek
  refine hP.bind_get fun σ => ?_
  split
  · exact hP.pure ()
  · split
    · exact henter
    · exact hP.bind (hpackage _ _) fun _ => henter

theorem closed_ensure (parts : List String) : P _ (ensure w r body parts) := by
  induction parts with
  | nil => exact hP.pure ()
  | cons part parents ih =>
    have hseek : P _ (seek w r body part parents) := closed_seek hP hload hput part parents
    rw [ensure_cons]
    refine hP.bind_get fun σ => ?_
    split
    · exact hP.pure ()
    · split
      · exact hseek
      · exact hP.bind ih fun _ => hseek

/-- Importing a module by its name does nothing but load modules and put them in others. -/
theorem closed_byName (name : String) : P _ (byName w r body name) := by
  rw [byName]
  split
  · exact hP.throw _
  · split
    · exact hP.throw _
    · exact closed_ensure hP hload hput _

end

end Import

namespace Generator

variable {identifiers : List String}

theorem closed_elapsed (hP : Run.Closed P) : P _ elapsed := hP.bind_get fun _ => hP.pure _

theorem closed_scanClass (hP : Run.Closed P) (identifier : String) (cls : Value) (p : Progress) :
    P _ (scanClass w r identifier cls p) := by
  rw [scanClass]
  refine hP.bind (hP.debug _ _) fun _ => hP.bind (Extraction.closed_extract hP _) fun found =>
    hP.bind (closed_elapsed hP) fun time => ?_
  split
  split
  · exact hP.bind (hP.report _ _ _) fun _ => hP.pure _
  · exact hP.pure _

theorem closed_scanAll (hP : Run.Closed P) (resolved : List (String × Value)) (p : Progress) :
    P _ (scanAll w r resolved p) := by
  induction resolved generalizing p with
  | nil => exact hP.pure _
  | cons e rest ih =>
    exact hP.bind (closed_scanClass hP _ _ _) fun _ => hP.bind (ih _) fun _ => hP.pure _

theorem closed_emit (hP : Run.Closed P) (found : List ClassMacros) : P _ (emit w r found) :=
  hP.bind_get fun _ => hP.bind (hP.log _) fun _ => hP.pure _

variable (h : ∀ id ∈ identifiers, ∀ m ∈ Resolution.modulesOf (Text.trim id).toList,
  P _ (Run.attempt (importModule m)))
include h

theorem closed_scan (hP : Run.Closed P) (p : Progress) :
    P _ (scan w r importModule identifiers p) :=
  hP.bind (Resolution.closed_resolveFrom hP h {}) fun _ => closed_scanAll hP _ _

/-- A collection attempts to import modules, reads and reports. -/
theorem closed_collected (hP : Run.Closed P) : P _ (collected w r importModule identifiers) := by
  rw [collected]
  dsimp only [Progress.enterOperation, Progress.leave]
  refine hP.bind (hP.debug _ _) fun _ => hP.bind (hP.attempt (closed_scan h hP _)) fun result => ?_
  cases result with
  | error failure =>
    refine hP.bind (closed_elapsed hP) fun _ => ?_
    split
    · exact hP.bind (hP.report _ _ _) fun _ => hP.throw _
    · exact hP.throw _
  | ok found =>
    exact hP.bind (closed_elapsed hP) fun _ => hP.bind (hP.report _ _ _) fun _ =>
      hP.bind (closed_elapsed hP) fun _ => hP.bind (hP.debug _ _) fun _ =>
        hP.bind_get fun _ => hP.bind (hP.debug _ _) fun _ => hP.pure _

theorem closed_render (hP : Run.Closed P) : P _ (render w r importModule identifiers) :=
  hP.bind (closed_collected h hP) fun _ => hP.bind (closed_emit hP _) fun _ => hP.pure _

end Generator
end MacroStubs
