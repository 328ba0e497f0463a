import MacroStubs.Proofs.Collection.Attempts
import MacroStubs.Proofs.Host.Telling

/-! # Firm steps

Quiet steps that give the same whatever the host is, although they report to it. Where all modules have
been imported, resolving an identifier is firm, and so is extracting the macros of a class: what they
give depends on the classes, objects and modules alone.
-/

namespace MacroStubs

variable {α β : Type} {σ τ : State} {w : World} {r : Reach}

/-- A step that changes nothing but the host and gives the same whatever the host is. -/
structure Run.IsFirm (σ : State) (x : Run α) : Prop where
  quiet : x.IsQuiet σ
  same : ∀ host, (x.run { σ with host }).1 = (x.run σ).1

namespace Run.IsFirm

variable {x : Run α} {f : α → Run β}

theorem pure (a : α) : (Pure.pure a : Run α).IsFirm σ := ⟨.pure a, fun _ => rfl⟩

theorem throw (failure : Failure) : (throw failure : Run α).IsFirm σ :=
  ⟨.throw failure, fun _ => rfl⟩

theorem read {g : State → Except Failure α} (h : ∀ host, g { σ with host } = g σ) :
    (Run.read g).IsFirm σ := ⟨.read g, h⟩

theorem onHost (f : Host → Host) : (Run.onHost f).IsFirm σ := ⟨.onHost f, fun _ => rfl⟩

theorem report (level : Level) (reporter message : String) :
    (Run.report level reporter message).IsFirm σ := onHost _

theorem debug (reporter message : String) : (Run.debug reporter message).IsFirm σ := onHost _

theorem bind (hx : x.IsFirm σ) (hf : ∀ a, (f a).IsFirm σ) : (x >>= f).IsFirm σ where
  quiet := hx.quiet.bind fun a => (hf a).quiet
  same host := by
    have hrun (host : Host) : ((x >>= f).run { σ with host }).1 =
        (x.run σ).1.bind fun a => ((f a).run σ).1 := by
      have hsame := hx.same host
      obtain ⟨host', hs⟩ := hx.quiet host
      rw [Run.run_bind]
      generalize x.run { σ with host } = outcome at hsame hs
      obtain ⟨result, τ⟩ := outcome
      obtain rfl : τ = { σ with host := host' } := hs
      rw [← hsame]
      cases result with
      | ok a => exact (hf a).same host'
      | error failure => rfl
    exact (hrun host).trans (hrun σ.host).symm

/-- What is done with the state at hand may not tell which host it has. -/
theorem bind_get {f : State → Run β} (hf : ∀ host, f { σ with host } = f σ) (h : (f σ).IsFirm σ) :
    ((MonadState.get : Run State) >>= f).IsFirm σ where
  quiet := .bind_get fun host => hf host ▸ h.quiet
  same host := by
    rw [Run.get_bind, Run.get_bind, hf]
    exact h.same host

theorem attempt (hx : x.IsFirm σ) : (Run.attempt x).IsFirm σ :=
  ⟨hx.quiet.attempt, fun host => congrArg Except.ok (hx.same host)⟩

theorem ends (hx : x.IsFirm σ) : x.Ends σ (· = (x.run σ).1) := hx.same

end Run.IsFirm

namespace Import

variable {body : ModuleInfo → Run Unit}

variable {part : String} {parents : List String}

/-- An unknown module is not found, whether its parents have been imported or not. -/
theorem isFirm_seek (h : isImported σ (joined (part :: parents)) = true ∨
    w.module? (joined (part :: parents)) = none) : (seek w r.hostless body part parents).IsFirm σ := by
  unfold seek
  refine .bind_get (fun host => rfl) ?_
  split
  · exact .pure ()
  · rename_i hnew
    have henter : (enter w body part parents).IsFirm σ := by
      rw [enter, h.resolve_left hnew]
      exact .throw _
    split
    · exact henter
    · refine .bind (.bind (.read fun _ => rfl) fun found => ?_) fun _ => henter
      split
      · exact .pure ()
      · exact .throw _

theorem isFirm_ensure {parts : List String}
    (h : ∀ suffix, suffix ≠ [] → suffix <:+ parts →
      isImported σ (joined suffix) = true ∨ w.module? (joined suffix) = none) :
    (ensure w r.hostless body parts).IsFirm σ := by
  induction parts with
  | nil => exact .pure ()
  | cons part parents ih =>
    have hparents : (ensure w r.hostless body parents).IsFirm σ :=
      ih fun suffix hn hs => h suffix hn (hs.trans (List.suffix_cons part parents))
    have hseek : (seek w r.hostless body part parents).IsFirm σ :=
      isFirm_seek (h (part :: parents) (List.cons_ne_nil _ _) List.suffix_rfl)
    rw [ensure_cons]
    refine .bind_get (fun host => rfl) ?_
    split
    · exact .pure ()
    · split
      · exact hseek
      · exact .bind hparents fun _ => hseek

theorem isFirm_byName {name : String} (h : IsSettled w σ name) :
    (byName w r.hostless body name).IsFirm σ := by
  rw [byName]
  split
  · exact .throw _
  · split
    · exact .throw _
    · exact isFirm_ensure h

theorem isFirm_within {name : String} (h : IsSettled w σ name) (depth : Nat) :
    (within w depth name).IsFirm σ := by
  cases depth <;> rw [within, ← Reach.hostless_of] <;> exact isFirm_byName h

/-- Importing a module that was imported, or is unknown, is firm. -/
theorem isFirm_importModule {name : String} (h : IsSettled w σ name) :
    (importModule w name).IsFirm σ := isFirm_within h _

/-- Whether all modules of a world have been imported. -/
def IsDone (w : World) (σ : State) : Prop := ∀ m ∈ w.modules, isImported σ m.name = true

theorem IsDone.isSettled (h : IsDone w σ) (name : String) : IsSettled w σ name := by
  intro parts _ _
  cases hm : w.module? (joined parts) with
  | none => exact .inr rfl
  | some m =>
    have hname : m.name = joined parts := eq_of_beq (List.find?_some hm :)
    exact .inl (hname ▸ h m (List.mem_of_find?_eq_some hm))

end Import

namespace Resolution

variable {importModule : String → Run Unit}

theorem isFirm_follow (module : String) (v : Value) (path : List String) :
    (follow r.hostless module v path).IsFirm σ := by
  induction path generalizing v with
  | nil => exact .pure _
  | cons name rest ih =>
    rw [follow]
    refine .bind_get (fun host => rfl) ?_
    split
    · exact ih _
    · split
      · exact .pure none
      · split
        · exact .bind (.debug _ _) fun _ => .pure none
        · exact .throw _

theorem isFirm_load {module : String} (h : (importModule module).IsFirm σ) (path : List String) :
    (load r.hostless importModule module path).IsFirm σ := by
  rw [load]
  split
  · exact .pure none
  · refine .bind h.attempt fun result => ?_
    split
    · exact isFirm_follow _ _ _
    · split
      · exact .pure none
      · split
        · exact .bind (.debug _ _) fun _ => .pure none
        · exact .throw _

theorem isFirm_loadFirst (h : ∀ module, (importModule module).IsFirm σ)
    (splits : List (String × List String)) :
    (loadFirst r.hostless importModule splits).IsFirm σ := by
  induction splits with
  | nil => exact .pure none
  | cons e rest ih =>
    obtain ⟨module, path⟩ := e
    rw [loadFirst]
    refine .bind (isFirm_load (h module) path) fun found => ?_
    split
    · exact ih
    · exact ih
    · exact .pure _

theorem isFirm_resolve_hostless (h : ∀ module, (importModule module).IsFirm σ)
    (identifier : String) : (resolve r.hostless importModule identifier).IsFirm σ := by
  have hskip : (do
      Run.debug reporter ("Class not resolvable, skipping: " ++ Text.trim identifier)
      pure none : Run (Option Value)).IsFirm σ := .bind (.debug _ _) fun _ => .pure none
  have hcandidate : (candidate? r.hostless importModule (Text.trim identifier).toList).IsFirm σ := by
    rw [candidate?]
    split
    · exact isFirm_load (h _) _
    · exact isFirm_loadFirst h _
  rw [resolve]
  split
  · exact .pure none
  · refine .bind hcandidate fun found => ?_
    split
    · split
      · exact .pure _
      · exact hskip
    · exact hskip

/-- Resolving an identifier is firm where nothing is left to import. -/
theorem isFirm_resolve (h : Import.IsDone w σ) (identifier : String) :
    (resolve (Reach.of w) (MacroStubs.importModule w) identifier).IsFirm σ := by
  rw [← Reach.hostless_of]
  exact isFirm_resolve_hostless
    (fun module => Import.isFirm_importModule (h.isSettled module)) identifier

end Resolution

namespace Extraction

variable {cls : Value}

theorem isFirm_told (name : String) : (told w r.hostless cls name).IsFirm σ :=
  .read fun host => by
    simp only [labels_host]
    rfl

theorem isFirm_storage? (fields : List String) : (storage? w r.hostless cls fields).IsFirm σ := by
  induction fields with
  | nil => exact .pure none
  | cons field rest ih =>
    rw [storage?]
    refine .bind_get (fun host => rfl) ?_
    split
    · exact ih
    · split
      · exact .pure _
      · exact .bind (isFirm_told _) fun _ => .bind (.debug _ _) fun _ => .pure none

theorem isFirm_declarable (entries : List (Value × Value)) :
    (declarable w r.hostless cls entries).IsFirm σ := by
  have hrefuse (key : Value) : (declarable.refuse w r.hostless cls key).IsFirm σ :=
    .bind (.read fun host => by rw [printedText_host]) fun _ => .bind (isFirm_told _) fun _ =>
      .report _ _ _
  induction entries with
  | nil => exact .pure []
  | cons e rest ih =>
    obtain ⟨key, v⟩ := e
    rw [declarable]
    split
    · split
      · exact .bind_get (fun host => rfl) (.bind ih fun _ => .pure _)
      · exact .bind (hrefuse key) fun _ => ih
    · exact .bind (hrefuse key) fun _ => ih

theorem isFirm_extract_hostless (fields : List String) :
    (extract w r.hostless fields cls).IsFirm σ := by
  rw [extract]
  refine .bind (isFirm_storage? fields) fun found => ?_
  split
  · exact .bind (isFirm_told _) fun _ => .bind (isFirm_told _) fun _ =>
      .bind (.debug _ _) fun _ => .pure none
  · refine .bind (isFirm_declarable _) fun entries => ?_
    split
    · exact .bind (isFirm_told _) fun _ => .bind (.debug _ _) fun _ => .pure none
    · exact .bind (.read fun _ => rfl) fun _ => .bind (.read fun _ => rfl) fun _ => .pure _

/-- Extracting the macros of a class is firm. -/
theorem isFirm_extract (fields : List String) : (extract w (Reach.of w) fields cls).IsFirm σ := by
  rw [← Reach.hostless_of]
  exact isFirm_extract_hostless fields

end Extraction
end MacroStubs
