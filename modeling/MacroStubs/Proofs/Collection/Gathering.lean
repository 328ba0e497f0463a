import MacroStubs.Proofs.Collection.Firm
import MacroStubs.Proofs.Collection.LastState

/-! # Gathering

What a collection comes to where all modules have been imported: each identifier names a class or
nothing, and of each class, taken where it is named first, the macros are extracted.
-/

namespace MacroStubs

variable {α : Type} {w : World} {r : Reach} {σ τ : State} {ids : List String}

namespace Resolution

/-- What an identifier leads to in a state. -/
def answer (w : World) (σ : State) (id : String) : Except Failure (Option Value) :=
  ((resolve (Reach.of w) (importModule w) id).run σ).1

/-- The class that an identifier names in a state, if it names one. -/
def class? (w : World) (σ : State) (id : String) : Option ClassId :=
  match answer w σ id with
  | .ok (some (.cls c)) => some c
  | _ => none

/-- The classes that identifiers name, in the order of the first identifier of each. -/
def named (w : World) (σ : State) (ids : List String) : List ClassId :=
  (ids.filterMap (class? w σ)).eraseDups

variable {importModule : String → Run Unit} {id : String}

/-- An identifier leads to nothing but classes. -/
theorem isClass_of_resolve {v : Value}
    (h : (resolve r importModule id).run σ = (.ok (some v), τ)) : ∃ c, v = .cls c := by
  rw [resolve] at h
  split at h
  · cases h
  · obtain ⟨found, ρ, -, h⟩ := Run.run_bind_eq_ok.mp h
    cases found with
    | none => cases h
    | some found =>
      dsimp only at h
      split at h
      · rename_i hc
        cases h
        cases v <;> first | exact ⟨_, rfl⟩ | cases hc
      · cases h

theorem class?_of_answer {c : ClassId} (h : answer w σ id = .ok (some (.cls c))) :
    class? w σ id = some c := by
  rw [class?, h]

theorem class?_of_none (h : answer w σ id = .ok none) : class? w σ id = none := by
  rw [class?, h]

/-- In the order of the identifiers, a class is taken unless it was taken before. -/
theorem resolveFrom_gathers (hi : Import.IsDone w σ)
    {done : Resolution} {taken : List ClassId} (hd : done.resolved.map (·.2) = taken.map .cls) :
    (resolveFrom (Reach.of w) (MacroStubs.importModule w) done ids).Ends σ fun e =>
      e.map (fun res => res.resolved.map (·.2)) = (ids.mapM (answer w σ)).map fun _ =>
        (taken ++ ((ids.filterMap (class? w σ)).removeAll taken).eraseDups).map Value.cls := by
  induction ids generalizing done taken with
  | nil => exact .pure (by simp [Except.map, pure, Except.pure, hd, List.removeAll])
  | cons id rest ih =>
    have hfirm := isFirm_resolve hi id
    rw [resolveFrom]
    refine hfirm.ends.bind hfirm.quiet (fun found hfound => ?_) fun failure hfailure => ?_
    · have hcons (classes : List Value) : ((id :: rest).mapM (answer w σ)).map (fun _ => classes) =
          (rest.mapM (answer w σ)).map fun _ => classes := by
        rw [List.mapM_cons, answer, ← hfound]
        cases rest.mapM (answer w σ) <;> rfl
      rw [hcons, List.filterMap_cons]
      cases found with
      | none =>
        rw [class?_of_none hfound.symm]
        exact ih hd
      | some v =>
        obtain ⟨c, rfl⟩ := isClass_of_resolve (Prod.ext hfound.symm rfl)
        have htaken : (done.resolved.any fun e => e.2 == Value.cls c) = taken.contains c := by
          have hany : (done.resolved.any fun e => e.2 == Value.cls c) =
              (done.resolved.map (·.2)).any (· == Value.cls c) := by
            rw [List.any_map]
            rfl
          rw [hany, hd, List.any_map, Bool.eq_iff_iff]
          simp [beq_cls]
        rw [class?_of_answer hfound.symm]
        dsimp only
        rw [htaken, List.cons_removeAll]
        cases hc : taken.contains c with
        | true => exact .bind_ok .report (.debug _ _) (ih hd)
        | false =>
          have hnext : taken ++ (c :: (rest.filterMap (class? w σ)).removeAll taken).eraseDups =
              taken ++ [c] ++ ((rest.filterMap (class? w σ)).removeAll (taken ++ [c])).eraseDups := by
            have hfilter (k : ClassId) : (!(taken ++ [c]).elem k) = (!k == c && !taken.elem k) := by
              rw [Bool.eq_iff_iff]
              simp [and_comm]
            rw [List.eraseDups_cons, List.removeAll, List.removeAll, List.filter_filter]
            simp only [hfilter, List.append_assoc, List.singleton_append]
          rw [if_neg Bool.false_ne_true, if_pos rfl, hnext]
          exact ih (by rw [List.map_append, hd, List.map_append]; rfl)
    · rw [List.mapM_cons, answer, ← hfailure]
      rfl

end Resolution

namespace Extraction

/-- What is extracted from a class in a state. -/
def extracted (w : World) (σ : State) (cls : Value) : Except Failure (Option ClassMacros) :=
  ((extract w (Reach.of w) storageFields cls).run σ).1

end Extraction

namespace Generator

theorem scanClass_gathers (identifier : String) (cls : Value) (p : Progress) :
    (scanClass w (Reach.of w) identifier cls p).Ends σ fun e =>
      e.map (·.2) = Extraction.extracted w σ cls := by
  have hfirm : (Extraction.extract w (Reach.of w) Extraction.storageFields cls).IsFirm σ :=
    Extraction.isFirm_extract _
  rw [scanClass]
  refine .bind_ok .report (.debug _ _) <| hfirm.ends.bind hfirm.quiet (fun part hpart => ?_) ?_
  · refine .bind_get fun host => ?_
    split <;> exact .bind_ok .report (.report _ _ _) (.pure hpart)
  · intro failure hfailure
    exact hfailure

/-- The macros are those of the classes in their order. -/
theorem scanAll_gathers (resolved : List (String × Value)) (p : Progress) :
    (scanAll w (Reach.of w) resolved p).Ends σ fun e =>
      e.map (·.2) = ((resolved.map (·.2)).mapM (Extraction.extracted w σ)).map
        (·.flatMap Option.toList) := by
  induction resolved generalizing p with
  | nil => exact .pure rfl
  | cons e rest ih =>
    obtain ⟨identifier, cls⟩ := e
    rw [scanAll, List.map_cons, List.mapM_cons]
    refine (scanClass_gathers identifier cls p).bind (isQuiet_scanClass _ _ _) ?_ ?_
    · rintro ⟨p, part⟩ hpart
      refine (ih p).bind (isQuiet_scanAll _ _) ?_ ?_
      · rintro ⟨p, later⟩ hlater
        refine .pure ?_
        rw [← hpart]
        generalize (rest.map (·.2)).mapM (Extraction.extracted w σ) = parts at hlater ⊢
        cases parts with
        | error failure => cases hlater
        | ok parts =>
          obtain rfl : later = parts.flatMap Option.toList := Except.ok.inj hlater
          rfl
      · intro failure hfailure
        rw [← hpart]
        generalize (rest.map (·.2)).mapM (Extraction.extracted w σ) = parts at hfailure ⊢
        cases parts with
        | error other => exact hfailure
        | ok parts => cases hfailure
    · intro failure hfailure
      rw [← hfailure]
      rfl

/-- What a collection gathers in a state. -/
def gathered (w : World) (σ : State) (ids : List String) : Except Failure (List ClassMacros) := do
  let _ ← ids.mapM (Resolution.answer w σ)
  let parts ← ((Resolution.named w σ ids).map Value.cls).mapM (Extraction.extracted w σ)
  pure (parts.flatMap Option.toList)

theorem scan_gathers (hi : Import.IsDone w σ) (p : Progress) :
    (scan w (Reach.of w) (importModule w) ids p).Ends σ fun e =>
      e.map (·.2) = gathered w σ ids := by
  have hnone : ({} : Resolution).resolved.map (·.2) = ([] : List ClassId).map Value.cls := rfl
  refine (Resolution.resolveFrom_gathers hi hnone).bind
    (isQuiet_ofIdentifiers fun _ _ m _ => hi.isSettled m) ?_ ?_
  · intro res hres
    have hall (p : Progress) := scanAll_gathers (w := w) (σ := σ) res.resolved p
    rw [gathered]
    generalize ids.mapM (Resolution.answer w σ) = answers at hres ⊢
    cases answers with
    | error failure => cases hres
    | ok answers =>
      have hclasses : res.resolved.map (·.2) = (Resolution.named w σ ids).map Value.cls := by
        simpa [Resolution.named, Except.map] using hres
      rw [hclasses] at hall
      generalize ((Resolution.named w σ ids).map Value.cls).mapM (Extraction.extracted w σ) = parts
        at hall ⊢
      cases parts <;> exact hall _
  · intro failure hfailure
    rw [gathered]
    generalize ids.mapM (Resolution.answer w σ) = answers at hfailure ⊢
    cases answers with
    | error other =>
      obtain rfl : failure = other := Except.error.inj hfailure
      rfl
    | ok answers => cases hfailure

theorem isQuiet_collected (hi : Import.IsDone w σ) :
    (collected w r (importModule w) ids).IsQuiet σ :=
  closed_collected (fun _ _ m _ => (Import.isFirm_importModule (hi.isSettled m)).quiet.attempt) (.quiet σ)

theorem collected_gathers (hi : Import.IsDone w σ) :
    (collected w (Reach.of w) (importModule w) ids).Ends σ fun e =>
      e.map (·.2) = gathered w σ ids :=
  collected_of_scan (Q := (· = gathered w σ ids)) (isQuiet_scan fun _ _ m _ => hi.isSettled m)
    (scan_gathers hi)

end Generator
end MacroStubs
