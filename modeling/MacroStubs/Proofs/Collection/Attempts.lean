import MacroStubs.Proofs.Collection.Quiet

/-! # Attempted imports

What resolving identifiers does to a state: it attempts to import one module after another, and what an
attempt did stays, whatever came of it. A body that fails leaves all that it did but its module.
-/

namespace MacroStubs

variable {α β : Type} {w : World} {r : Reach} {σ τ ρ : State}

/-- Whether states differ in their hosts at most. -/
def State.AgreesWith (σ τ : State) : Prop := ∃ host, τ = { σ with host }

namespace State.AgreesWith

theorem refl (σ : State) : σ.AgreesWith σ := ⟨σ.host, rfl⟩

theorem trans (h : σ.AgreesWith τ) (h' : τ.AgreesWith ρ) : σ.AgreesWith ρ := by
  obtain ⟨host, rfl⟩ := h
  obtain ⟨host', rfl⟩ := h'
  exact ⟨host', rfl⟩

end State.AgreesWith

theorem Run.IsQuiet.agreesWith {x : Run α} (h : x.IsQuiet σ) : σ.AgreesWith (x.run σ).2 := h σ.host

theorem Run.IsQuiet.agreesWith_of_run {x : Run α} {result : Except Failure α} (h : x.IsQuiet σ)
    (hr : x.run σ = (result, τ)) : σ.AgreesWith τ := by
  have ha := h.agreesWith
  rwa [hr] at ha

namespace Import

variable {body : ModuleInfo → Run Unit} {m : ModuleInfo}

/-- The state in which the body of a module begins. -/
def entered (w : World) (m : ModuleInfo) (σ : State) : State :=
  putAttributes m.name m.attributes
    { σ with
      executed := σ.executed ++ [m.name]
      modules := σ.modules.put m.name (attributesOf w m.name) }

/-- A state without a module. -/
def without (name : String) (σ : State) : State := { σ with modules := σ.modules.erase name }

/-- A module whose body has run stays if nothing failed; else it is forgotten, and nothing else is. -/
theorem load_run : (load w body m).run σ =
    match (body m).run (entered w m σ), m.failure with
    | (.ok (), τ), none => (.ok (), τ)
    | (.ok (), τ), some t => (.error (.raised t), without m.name τ)
    | (.error f, τ), _ => (.error f, without m.name τ) := by
  have hmodify (g : State → State) (τ : State) : (modify g : Run Unit).run τ = (.ok (), g τ) := rfl
  rw [load, Run.bind_of_ok (hmodify _ _), Run.bind_of_ok (hmodify _ _), ← entered, Run.attempt_bind]
  generalize (body m).run (entered w m σ) = outcome
  obtain ⟨result, τ⟩ := outcome
  cases result with
  | error f => rfl
  | ok _ => cases m.failure <;> rfl

/-- What the body of a module did stays where its import fails. -/
theorem load_of_error {f : Failure} (h : (load w body m).run σ = (.error f, τ)) :
    τ = without m.name ((body m).run (entered w m σ)).2 := by
  rw [load_run] at h
  generalize (body m).run (entered w m σ) = outcome at h
  obtain ⟨result, ρ⟩ := outcome
  cases result with
  | error f => cases h; rfl
  | ok _ =>
    cases hf : m.failure with
    | none => rw [hf] at h; cases h
    | some t => rw [hf] at h; cases h; rfl

end Import

/-- Attempts to import modules, one after another, lead from one state to another one: each begins where
the one before ended, whatever came of it. Meanwhile only the host may change. -/
inductive Attempted (importModule : String → Run Unit) :
    List (String × Except Failure Unit) → State → State → Prop
  | nil {σ τ : State} (h : σ.AgreesWith τ) : Attempted importModule [] σ τ
  | cons {σ σ' ρ τ : State} {name : String} {result : Except Failure Unit}
      {later : List (String × Except Failure Unit)} (h : σ.AgreesWith σ')
      (hr : (importModule name).run σ' = (result, ρ)) (hl : Attempted importModule later ρ τ) :
      Attempted importModule ((name, result) :: later) σ τ

variable {importModule : String → Run Unit} {attempts later : List (String × Except Failure Unit)}

namespace Attempted

theorem of_agrees (h : σ.AgreesWith τ) (ha : Attempted importModule attempts τ ρ) :
    Attempted importModule attempts σ ρ := by
  cases ha with
  | nil h' => exact .nil (h.trans h')
  | cons h' hr hl => exact .cons (h.trans h') hr hl

theorem append (ha : Attempted importModule attempts σ τ) (hl : Attempted importModule later τ ρ) :
    Attempted importModule (attempts ++ later) σ ρ := by
  induction ha with
  | nil h => exact hl.of_agrees h
  | cons h hr _ ih => exact .cons h hr (ih hl)

end Attempted

/-- A step that does nothing to a state but attempts to import some of these modules. -/
def Run.Attempts (importModule : String → Run Unit) (modules : List String) (x : Run α) : Prop :=
  ∀ σ, ∃ attempts, Attempted importModule attempts σ (x.run σ).2 ∧ ∀ a ∈ attempts, a.1 ∈ modules

namespace Run.Attempts

variable {modules : List String} {x : Run α} {f : α → Run β}

theorem of_quiet (h : ∀ σ, x.IsQuiet σ) : x.Attempts importModule modules := fun σ =>
  ⟨[], .nil (h σ).agreesWith, nofun⟩

theorem bind (hx : x.Attempts importModule modules) (hf : ∀ a, (f a).Attempts importModule modules) :
    (x >>= f).Attempts importModule modules := by
  intro σ
  obtain ⟨attempts, ha, hm⟩ := hx σ
  rw [Run.run_bind]
  generalize x.run σ = outcome at ha
  obtain ⟨result, τ⟩ := outcome
  cases result with
  | error failure => exact ⟨attempts, ha, hm⟩
  | ok a =>
    obtain ⟨later, hl, hlm⟩ := hf a τ
    exact ⟨attempts ++ later, ha.append hl, List.forall_mem_append.mpr ⟨hm, hlm⟩⟩

theorem attempt_importModule {name : String} (h : name ∈ modules) :
    (Run.attempt (importModule name)).Attempts importModule modules := fun σ =>
  ⟨[(name, ((importModule name).run σ).1)], .cons (.refl σ) rfl (.nil (.refl _)),
    List.forall_mem_singleton.mpr h⟩

end Run.Attempts

theorem Run.Closed.attempting (importModule : String → Run Unit) (modules : List String) :
    Run.Closed fun _ x => x.Attempts importModule modules where
  pure a := .of_quiet fun _ => .pure a
  throw failure := .of_quiet fun _ => .throw failure
  read g := .of_quiet fun _ => .read g
  get := .of_quiet fun _ => .get
  log _ := .of_quiet fun _ => .onHost _
  bind := .bind
  attempt hx := hx

namespace Resolution

/-- Resolving identifiers does nothing but attempt to import the modules that they may mean. -/
theorem attempts_resolveFrom (done : Resolution) (identifiers : List String) :
    (resolveFrom r importModule done identifiers).Attempts importModule
      (identifiers.flatMap fun id => modulesOf (Text.trim id).toList) :=
  closed_resolveFrom (.attempting _ _) (fun id hid _ hm =>
    .attempt_importModule (List.mem_flatMap.mpr ⟨id, hid, hm⟩)) done

/-- What is resolved under further identifiers comes behind what was resolved before. -/
theorem resolved_prefix {done res : Resolution} {identifiers : List String}
    (h : ((resolveFrom r importModule done identifiers).run σ).1 = .ok res) :
    done.resolved <+: res.resolved := by
  induction identifiers generalizing done σ with
  | nil =>
    cases h
    exact List.prefix_rfl
  | cons id rest ih =>
    rw [resolveFrom, Run.run_bind] at h
    split at h
    · split at h
      · exact (ih h :)
      · split at h
        · rw [Run.run_bind] at h
          exact (ih h :)
        · exact (List.prefix_append _ _).trans (ih h)
    · cases h

/-- The last of some identifiers is resolved when all others are. -/
theorem resolveFrom_cons (done : Resolution) (id : String) (rest : List String) :
    resolveFrom r importModule done (id :: rest) =
      resolve r importModule id >>= fun found => match found with
        | none => resolveFrom r importModule { done with unresolved := done.unresolved ++ [id] } rest
        | some cls =>
          if done.resolved.any fun e => e.2 == cls then do
            Run.debug reporter ("Duplicate class identifier ignored: " ++ id)
            resolveFrom r importModule { done with duplicates := done.duplicates ++ [id] } rest
          else
            resolveFrom r importModule { done with resolved := done.resolved ++ [(id, cls)] } rest :=
  rfl

theorem resolveFrom_concat (done : Resolution) (init : List String) (last : String) :
    resolveFrom r importModule done (init ++ [last]) =
      resolveFrom r importModule done init >>= fun done =>
        resolveFrom r importModule done [last] := by
  induction init generalizing done with
  | nil =>
    have hnil : resolveFrom r importModule done [] = pure done := rfl
    rw [List.nil_append, hnil, pure_bind]
  | cons id rest ih =>
    rw [List.cons_append, resolveFrom_cons, resolveFrom_cons, bind_assoc]
    congr 1
    funext found
    cases found with
    | none => exact ih _
    | some cls =>
      dsimp only
      split
      · rw [bind_assoc]
        congr 1
        funext _
        exact ih _
      · exact ih _

variable {res : Resolution} {identifiers init : List String} {last : String}

theorem attempted_of_run (h : (ofIdentifiers r importModule identifiers).run σ = (.ok res, τ)) :
    ∃ attempts, Attempted importModule attempts σ τ ∧ ∀ a ∈ attempts,
      a.1 ∈ identifiers.flatMap fun id => modulesOf (Text.trim id).toList := by
  have ha := @attempts_resolveFrom r importModule {} identifiers σ
  have hrun : (resolveFrom r importModule {} identifiers).run σ = (.ok res, τ) := h
  rwa [hrun] at ha

/-- Resolving identifiers ends in the state in which the last of them has been resolved, and nothing is
resolved anew that was resolved before it. -/
theorem ofIdentifiers_concat
    (h : (ofIdentifiers r importModule (init ++ [last])).run σ = (.ok res, τ)) :
    ∃ done σ₁ answer τ', (ofIdentifiers r importModule init).run σ = (.ok done, σ₁) ∧
      (resolve r importModule last).run σ₁ = (.ok answer, τ') ∧ τ'.AgreesWith τ ∧
      done.resolved <+: res.resolved := by
  rw [ofIdentifiers, resolveFrom_concat] at h
  obtain ⟨done, σ₁, hinit, hlast⟩ := Run.run_bind_eq_ok.mp h
  have hp := resolved_prefix (congrArg Prod.fst hlast)
  obtain ⟨answer, τ', hanswer, hrest⟩ := Run.run_bind_eq_ok.mp hlast
  refine ⟨done, σ₁, answer, τ', hinit, hanswer, ?_, hp⟩
  refine (?_ : Run.IsQuiet τ' _).agreesWith_of_run hrest
  split
  · exact .pure _
  · split
    · exact .bind (.debug _ _) fun _ => .pure _
    · exact .pure _

end Resolution
end MacroStubs
