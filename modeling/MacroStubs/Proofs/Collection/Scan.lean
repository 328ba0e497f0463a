import MacroStubs.Proofs.Collection.Firm
import MacroStubs.Proofs.Macroable.Registry

/-! # Scans

What a scan of classes collects: what is extracted from each class, in the order of the classes. A
scan fails only if a class cannot be resolved or extracted from.
-/

namespace MacroStubs

variable {w : World} {r : Reach} {σ : State} {importModule : String → Run Unit}

namespace Resolution

/-- Identifiers that name these classes. -/
def ofNamed (named : List (String × ClassId)) : Resolution where
  resolved := named.map fun e => (e.1, .cls e.2)

theorem classes_ofNamed (named : List (String × ClassId)) :
    (ofNamed named).resolved.map (·.2) = named.map fun e => .cls e.2 := by
  rw [ofNamed, List.map_map]
  rfl

theorem mem_classes_ofNamed {named : List (String × ClassId)} {c : ClassId} :
    .cls c ∈ (ofNamed named).resolved.map (·.2) ↔ c ∈ named.map (·.2) := by
  simp [classes_ofNamed]

/-- Identifiers of different classes are resolved to these in their order. -/
theorem resolveFrom_ends {named : List (String × ClassId)} (done : Resolution)
    (hr : ∀ e ∈ named, (resolve r importModule e.1).Ends σ (· = .ok (some (.cls e.2))))
    (hq : ∀ e ∈ named, (resolve r importModule e.1).IsQuiet σ)
    (hn : (named.map (·.2)).Nodup) (hd : ∀ e ∈ named, ∀ d ∈ done.resolved, d.2 ≠ .cls e.2) :
    (resolveFrom r importModule done (named.map (·.1))).Ends σ
      (· = .ok { done with resolved := done.resolved ++ named.map fun e => (e.1, .cls e.2) }) := by
  induction named generalizing done with
  | nil =>
    refine .pure ?_
    rw [List.map_nil, List.append_nil]
  | cons e rest ih =>
    obtain ⟨hr, hrest⟩ := List.forall_mem_cons.mp hr
    obtain ⟨hq, hqrest⟩ := List.forall_mem_cons.mp hq
    obtain ⟨hde, hdrest⟩ := List.forall_mem_cons.mp hd
    obtain ⟨hne, hn⟩ := List.nodup_cons.mp hn
    have hfresh : (done.resolved.any fun d => d.2 == Value.cls e.2) = false :=
      List.any_eq_false.mpr fun d hd hb => hde d hd (beq_cls.mp hb)
    rw [List.map_cons, resolveFrom]
    refine .bind_ok hr hq ?_
    dsimp only
    rw [hfresh, if_neg Bool.false_ne_true]
    have hlater := ih { done with resolved := done.resolved ++ [(e.1, .cls e.2)] } hrest hqrest hn ?_
    · rw [List.append_assoc] at hlater
      exact hlater
    · intro k hk d hd
      rcases List.mem_append.mp hd with hd | hd
      · exact hdrest k hk d hd
      · rw [List.mem_singleton.mp hd]
        intro he
        exact hne (List.mem_map.mpr ⟨k, hk, (Value.cls.inj he).symm⟩)

end Resolution

namespace Extraction

/-- Extracting from a class may give this. -/
def Gives (w : World) (σ : State) (cls : Value) (part : Option ClassMacros) : Prop :=
  ∃ host, ((extract w (Reach.of w) storageFields cls).run { σ with host }).1 = .ok part

/-- Extracting from a class may fail like this. -/
def Fails (w : World) (σ : State) (cls : Value) (f : Failure) : Prop :=
  ∃ host, ((extract w (Reach.of w) storageFields cls).run { σ with host }).1 = .error f

end Extraction

/-- The classes of a scan with what was extracted from each. -/
abbrev Collection := List (Value × Option ClassMacros)

/-- A collection of some classes from which these macros are left. -/
structure Collection.IsOf (w : World) (σ : State) (classes : List Value) (found : List ClassMacros)
    (coll : Collection) : Prop where
  classes : coll.map (·.1) = classes
  found : coll.filterMap (·.2) = found
  parts : ∀ e ∈ coll, Extraction.Gives w σ e.1 e.2

/-- What a scan of some classes may come to: a collection, or the failure of one of the classes. -/
def ScanOutcome (w : World) (σ : State) (classes : List Value) :
    Except Failure (List ClassMacros) → Prop
  | .ok found => ∃ coll, Collection.IsOf w σ classes found coll
  | .error f => ∃ cls ∈ classes, Extraction.Fails w σ cls f

namespace Generator

theorem isQuiet_elapsed : elapsed.IsQuiet σ := closed_elapsed (.quiet σ)

theorem isQuiet_scanClass (identifier : String) (cls : Value) (p : Progress) :
    (scanClass w r identifier cls p).IsQuiet σ := closed_scanClass (.quiet σ) identifier cls p

theorem isQuiet_scanAll (resolved : List (String × Value)) (p : Progress) :
    (scanAll w r resolved p).IsQuiet σ := closed_scanAll (.quiet σ) resolved p

theorem extract_outcome (cls : Value) :
    (Extraction.extract w (Reach.of w) Extraction.storageFields cls).Ends σ fun
      | .ok part => Extraction.Gives w σ cls part
      | .error f => Extraction.Fails w σ cls f := by
  intro host
  split
  · exact ⟨host, ‹_›⟩
  · exact ⟨host, ‹_›⟩

theorem scanClass_ends (identifier : String) (cls : Value) (p : Progress) :
    (scanClass w (Reach.of w) identifier cls p).Ends σ fun
      | .ok (_, part) => Extraction.Gives w σ cls part
      | .error f => Extraction.Fails w σ cls f := by
  rw [scanClass]
  refine .bind_ok .report (.debug _ _) ?_
  refine (extract_outcome cls).bind (Extraction.isQuiet_extract _) (fun part hpart => ?_) fun f hf => hf
  refine .bind_get fun host => ?_
  split <;> exact .bind_ok .report (.report _ _ _) (.pure hpart)

/-- The parts are those of the classes in their order. -/
theorem scanAll_ends (resolved : List (String × Value)) (p : Progress) :
    (scanAll w (Reach.of w) resolved p).Ends σ fun result =>
      ScanOutcome w σ (resolved.map (·.2)) (result.map (·.2)) := by
  induction resolved generalizing p with
  | nil => exact .pure ⟨[], rfl, rfl, nofun⟩
  | cons e rest ih =>
    obtain ⟨identifier, cls⟩ := e
    rw [scanAll]
    refine (scanClass_ends identifier cls p).bind (isQuiet_scanClass _ _ _) ?_ ?_
    · rintro ⟨p, part⟩ hpart
      refine (ih p).bind (isQuiet_scanAll _ _) ?_ ?_
      · rintro ⟨p, later⟩ ⟨coll, hc⟩
        refine .pure ⟨(cls, part) :: coll, ?_, ?_, ?_⟩
        · rw [List.map_cons, List.map_cons, hc.classes]
        · obtain rfl : coll.filterMap (·.2) = later := hc.found
          cases part <;> rfl
        · exact List.forall_mem_cons.mpr ⟨hpart, hc.parts⟩
      · rintro f ⟨other, ho, hf⟩
        exact ⟨other, List.mem_cons_of_mem _ ho, hf⟩
    · intro f hf
      exact ⟨cls, List.mem_cons_self, hf⟩

/-- Each module that the identifiers ask for has been imported or is unknown. -/
def IsSettled (w : World) (σ : State) (identifiers : List String) : Prop :=
  ∀ id ∈ identifiers, ∀ m ∈ Resolution.modulesOf (Text.trim id).toList, Import.IsSettled w σ m

variable {identifiers : List String} {res : Resolution}

theorem isSettled_of_unknown (h : ∀ name, w.module? name = none) : IsSettled w σ identifiers :=
  fun _ _ _ _ _ _ _ => .inr (h _)

theorem isQuiet_ofIdentifiers (hs : IsSettled w σ identifiers) :
    (Resolution.ofIdentifiers r (MacroStubs.importModule w) identifiers).IsQuiet σ :=
  Resolution.isQuiet_ofIdentifiers fun id hid m hm =>
    (Import.isFirm_importModule (hs id hid m hm)).quiet

/-- Identifiers that are resolved to different classes are resolved to these together. -/
theorem ofIdentifiers_ends {named : List (String × ClassId)}
    (hs : IsSettled w σ (named.map (·.1)))
    (hr : ∀ e ∈ named, (Resolution.resolve (Reach.of w) (MacroStubs.importModule w) e.1).Ends σ
      (· = .ok (some (.cls e.2))))
    (hn : (named.map (·.2)).Nodup) :
    (Resolution.ofIdentifiers (Reach.of w) (MacroStubs.importModule w) (named.map (·.1))).Ends σ
      (· = .ok (.ofNamed named)) := by
  refine Resolution.resolveFrom_ends {} hr (fun e he => ?_) hn nofun
  exact Resolution.isQuiet_resolve fun m hm =>
    (Import.isFirm_importModule (hs e.1 (List.mem_map_of_mem he) m hm)).quiet

theorem isQuiet_scan (hs : IsSettled w σ identifiers) (p : Progress) :
    (scan w r (MacroStubs.importModule w) identifiers p).IsQuiet σ :=
  .bind (isQuiet_ofIdentifiers hs) fun _ => isQuiet_scanAll _ _

/-- What is collected is what the scan finds: the counts, the clock and the reports have no say in it. -/
theorem collected_of_scan {Q : Except Failure (List ClassMacros) → Prop}
    (hquiet : ∀ p, (scan w (Reach.of w) (MacroStubs.importModule w) identifiers p).IsQuiet σ)
    (hscan : ∀ p, (scan w (Reach.of w) (MacroStubs.importModule w) identifiers p).Ends σ
      fun result => Q (result.map (·.2))) :
    (collected w (Reach.of w) (MacroStubs.importModule w) identifiers).Ends σ fun result =>
      Q (result.map (·.2)) := by
  rw [collected]
  dsimp only [Progress.enterOperation, Progress.leave]
  refine .bind_ok .report (.debug _ _) ?_
  refine (hscan _).attempt.bind (hquiet _).attempt ?_ ?_
  · rintro result ⟨_, hr, hp⟩
    obtain rfl := Except.ok.inj hr
    cases result with
    | error f =>
      refine .bind_get fun host => ?_
      split
      · exact .bind_ok .report (.report _ _ _) (.throw hp)
      · exact .throw hp
    | ok found =>
      exact .bind_get fun _ => .bind_ok .report (.report _ _ _) <| .bind_get fun _ =>
        .bind_ok .report (.debug _ _) <| .bind_get fun _ => .bind_ok .report (.debug _ _) (.pure hp)
  · -- an attempt does not fail
    rintro f ⟨_, hr, -⟩
    cases hr

/-- What is collected under identifiers that are resolved, or the failure of one of the classes. -/
theorem collected_ends (hs : IsSettled w σ identifiers)
    (hres : (Resolution.ofIdentifiers (Reach.of w) (MacroStubs.importModule w) identifiers).Ends σ
      (· = .ok res)) :
    (collected w (Reach.of w) (MacroStubs.importModule w) identifiers).Ends σ fun result =>
      ScanOutcome w σ (res.resolved.map (·.2)) (result.map (·.2)) :=
  collected_of_scan (isQuiet_scan hs) fun _ =>
    .bind_ok hres (isQuiet_ofIdentifiers hs) (scanAll_ends _ _)

theorem collect_outcome (g : Generator) (hs : IsSettled w σ g.classes)
    (hres : (Resolution.ofIdentifiers (Reach.of w) (MacroStubs.importModule w) g.classes).Ends σ
      (· = .ok res)) :
    ScanOutcome w σ (res.resolved.map (·.2))
      (g.collect w (Reach.of w) (MacroStubs.importModule w) σ).1.1 := by
  have h := collected_ends hs hres σ.host
  rw [collect]
  change ScanOutcome w σ _ ((((collected w (Reach.of w) (MacroStubs.importModule w)
    g.classes).run σ).1).map (·.2)) at h
  generalize (collected w (Reach.of w) (MacroStubs.importModule w) g.classes).run σ = outcome at h
  obtain ⟨result, τ⟩ := outcome
  cases result <;> exact h

end Generator
end MacroStubs
