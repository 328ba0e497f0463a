import MacroStubs.Proofs.Collection.Gathering
import Mathlib.Data.List.Dedup
import Mathlib.Data.List.Induction
import Mathlib.Data.List.ReduceOption

/-! # Counts of a collection

Every identifier is accounted for once: its class is collected, or it is counted as skipped or as a
duplicate. The counts of a generator are those of its last collection that succeeded.
-/

namespace MacroStubs

variable {w : World} {r : Reach} {σ σ' τ ρ : State}

namespace Resolution

variable {importModule : String → Run Unit}

/-- Identifiers resolved one after another have these answers: the classes that they name, if they name
any. Only the host may change between two of them. -/
inductive Answered (r : Reach) (importModule : String → Run Unit) :
    List String → List (Option ClassId) → State → State → Prop
  | nil {σ τ : State} (h : σ.AgreesWith τ) : Answered r importModule [] [] σ τ
  | cons {σ σ' ρ τ : State} {id : String} {answer : Option ClassId} {ids : List String}
      {answers : List (Option ClassId)} (h : σ.AgreesWith σ')
      (ha : (resolve r importModule id).run σ' = (.ok (answer.map .cls), ρ))
      (hl : Answered r importModule ids answers ρ τ) :
      Answered r importModule (id :: ids) (answer :: answers) σ τ

variable {ids : List String} {answers : List (Option ClassId)} {done res : Resolution}

theorem Answered.of_agrees (h : σ.AgreesWith τ) (ha : Answered r importModule ids answers τ ρ) :
    Answered r importModule ids answers σ ρ := by
  cases ha with
  | nil h' => exact .nil (h.trans h')
  | cons h' ha hl => exact .cons (h.trans h') ha hl

theorem Answered.agrees (ha : Answered r importModule ids answers σ τ) (h : τ.AgreesWith ρ) :
    Answered r importModule ids answers σ ρ := by
  induction ha with
  | nil h' => exact .nil (h'.trans h)
  | cons h' ha _ ih => exact .cons h' ha (ih h)

/-- How many identifiers a resolution has dealt with. -/
def total (res : Resolution) : Nat :=
  res.resolved.length + res.unresolved.length + res.duplicates.length

/-- The classes of a resolution are these, each once. -/
structure Holds (res : Resolution) (classes : List ClassId) : Prop where
  resolved : res.resolved.map (·.2) = classes.map .cls
  nodup : classes.Nodup

theorem Holds.any_iff {classes : List ClassId} (h : done.Holds classes) (c : ClassId) :
    (done.resolved.any fun e => e.2 == Value.cls c) = true ↔ c ∈ classes := by
  have hany : (done.resolved.any fun e => e.2 == Value.cls c) =
      (done.resolved.map (·.2)).any (· == Value.cls c) := by
    rw [List.any_map]
    rfl
  rw [hany, h.resolved, List.any_map, List.any_eq_true]
  simp [beq_cls]

theorem Holds.concat {classes : List ClassId} {id : String} {c : ClassId} (h : done.Holds classes)
    (hc : c ∉ classes) :
    Holds { done with resolved := done.resolved ++ [(id, .cls c)] } (classes ++ [c]) where
  resolved := by rw [List.map_append, h.resolved, List.map_append]; rfl
  nodup := List.nodup_append.mpr ⟨h.nodup, List.nodup_singleton c, by
    rintro a ha b hb rfl
    exact hc (List.mem_singleton.mp hb ▸ ha)⟩

/-- An identifier adds one to a resolution, and the class that it names, if any, is held from then on. -/
theorem answered_of_resolve {classes : List ClassId} {id : String} (hd : done.Holds classes)
    (h : (resolveFrom r importModule done (id :: ids)).run σ = (.ok res, τ)) :
    ∃ answer ρ σ' next held, (resolve r importModule id).run σ = (.ok (answer.map .cls), ρ) ∧
      ρ.AgreesWith σ' ∧ (resolveFrom r importModule next ids).run σ' = (.ok res, τ) ∧
      next.Holds held ∧ (∀ c, c ∈ held ↔ c ∈ classes ∨ some c = answer) ∧
      next.total = done.total + 1 := by
  obtain ⟨answer, ρ, hanswer, h⟩ := Run.run_bind_eq_ok.mp h
  cases answer with
  | none =>
    refine ⟨none, ρ, ρ, _, classes, hanswer, .refl ρ, h, ⟨hd.resolved, hd.nodup⟩, by simp, ?_⟩
    simp only [total, List.length_append, List.length_singleton]
    omega
  | some v =>
    obtain ⟨c, rfl⟩ := isClass_of_resolve hanswer
    dsimp only at h
    split at h
    · rename_i htaken
      have hc : c ∈ classes := (hd.any_iff c).mp htaken
      obtain ⟨_, σ', hreport, h⟩ := Run.run_bind_eq_ok.mp h
      refine ⟨some c, ρ, σ', _, classes, hanswer, (Run.IsQuiet.debug _ _).agreesWith_of_run hreport,
        h, ⟨hd.resolved, hd.nodup⟩, fun k => ?_, ?_⟩
      · rw [Option.some.injEq]
        exact ⟨.inl, by rintro (hk | rfl) <;> assumption⟩
      · simp only [total, List.length_append, List.length_singleton]
        omega
    · rename_i hfresh
      have hc : c ∉ classes := fun hc => hfresh ((hd.any_iff c).mpr hc)
      refine ⟨some c, ρ, ρ, _, classes ++ [c], hanswer, .refl ρ, h, hd.concat hc, by simp, ?_⟩
      simp only [total, List.length_append, List.length_singleton]
      omega

/-- Resolving identifiers counts each of them, and holds the classes that they name. -/
theorem answered_of_resolveFrom {classes : List ClassId} (hd : done.Holds classes)
    (h : (resolveFrom r importModule done ids).run σ = (.ok res, τ)) :
    ∃ answers found, Answered r importModule ids answers σ τ ∧ res.Holds found ∧
      (∀ c, c ∈ found ↔ c ∈ classes ∨ some c ∈ answers) ∧ res.total = done.total + ids.length := by
  induction ids generalizing done classes σ with
  | nil =>
    cases h
    exact ⟨[], classes, .nil (.refl _), hd, by simp, rfl⟩
  | cons id rest ih =>
    obtain ⟨answer, ρ, σ', next, held, hanswer, hagrees, hrest, hnext, hheld, hone⟩ :=
      answered_of_resolve hd h
    obtain ⟨answers, found, hall, hres, hfound, htotal⟩ := ih hnext hrest
    refine ⟨answer :: answers, found, .cons (.refl σ) hanswer (hall.of_agrees hagrees), hres,
      fun c => ?_, ?_⟩
    · rw [hfound, hheld, List.mem_cons, or_assoc]
    · rw [htotal, hone, List.length_cons]
      omega

end Resolution

namespace Progress

/-- The counts have gone on by so many classes, from which these macros were extracted. -/
structure Scanned (n : Nat) (found : List ClassMacros) (p p' : Progress) : Prop where
  classes : p'.classes = p.classes + n
  skipped : p'.skipped + found.length = p.skipped + n
  duplicates : p'.duplicates = p.duplicates
  macros : p'.macros = p.macros + (found.flatMap (·.entries)).length
  operations : p'.operations = p.operations

theorem Scanned.refl (p : Progress) : Scanned 0 [] p p := ⟨rfl, rfl, rfl, rfl, rfl⟩

theorem Scanned.trans {m n : Nat} {found later : List ClassMacros} {p q s : Progress}
    (h : Scanned m found p q) (h' : Scanned n later q s) : Scanned (m + n) (found ++ later) p s where
  classes := by rw [h'.classes, h.classes, Nat.add_assoc]
  skipped := by
    have := h.skipped
    have := h'.skipped
    rw [List.length_append]
    omega
  duplicates := h'.duplicates.trans h.duplicates
  macros := by rw [h'.macros, h.macros, List.flatMap_append, List.length_append, Nat.add_assoc]
  operations := h'.operations.trans h.operations

end Progress

namespace Generator

variable {importModule : String → Run Unit} {identifiers : List String} {p p' : Progress}
variable {found : List ClassMacros}

/-- One class counts once, as skipped too if nothing is extracted from it. -/
theorem scanned_scanClass {identifier : String} {cls : Value} {part : Option ClassMacros}
    (h : (scanClass w r identifier cls p).run σ = (.ok (p', part), τ)) :
    p.Scanned 1 part.toList p' := by
  rw [scanClass] at h
  obtain ⟨_, _, -, h⟩ := Run.run_bind_eq_ok.mp h
  obtain ⟨extracted, _, -, h⟩ := Run.run_bind_eq_ok.mp h
  obtain ⟨_, _, -, h⟩ := Run.run_bind_eq_ok.mp h
  dsimp only [Progress.leave] at h
  obtain ⟨_, _, -, h⟩ := Run.run_bind_eq_ok.mp h
  cases h
  cases part with
  | none => exact ⟨rfl, rfl, rfl, rfl, rfl⟩
  | some macros =>
    refine ⟨rfl, rfl, rfl, ?_, rfl⟩
    rw [Option.toList_some, List.flatMap_singleton]
    rfl

theorem scanned_scanAll {resolved : List (String × Value)}
    (h : (scanAll w r resolved p).run σ = (.ok (p', found), τ)) :
    p.Scanned resolved.length found p' := by
  induction resolved generalizing p found σ with
  | nil =>
    cases h
    exact .refl _
  | cons e rest ih =>
    rw [scanAll] at h
    obtain ⟨⟨p₁, part⟩, _, hpart, h⟩ := Run.run_bind_eq_ok.mp h
    obtain ⟨⟨p₂, later⟩, _, hlater, h⟩ := Run.run_bind_eq_ok.mp h
    cases h
    rw [List.length_cons, Nat.add_comm]
    exact (scanned_scanClass hpart).trans (ih hlater)

/-- The counts of a scan that succeeds account for all identifiers and for all that was found. -/
theorem counts_of_scan {p₀ : Progress}
    (h : (scan w r importModule identifiers p₀).run σ = (.ok (p, found), τ))
    (hp : p₀ = (Progress.enterOperation "macro discovery" {}).1) :
    ∃ answers, Resolution.Answered r importModule identifiers answers σ τ ∧
      identifiers.length = found.length + p.skipped + p.duplicates ∧
      p.classes = answers.reduceOption.dedup.length ∧
      p.macros = (found.flatMap (·.entries)).length ∧ p.operations = p₀.operations := by
  obtain ⟨res, ρ, hres, hall⟩ := Run.run_bind_eq_ok.mp h
  have hnone : ({} : Resolution).Holds [] := ⟨rfl, List.nodup_nil⟩
  obtain ⟨answers, classes, hanswered, hholds, hmem, htotal⟩ :=
    Resolution.answered_of_resolveFrom hnone hres
  have hs := scanned_scanAll hall
  have hclasses : res.resolved.length = answers.reduceOption.dedup.length := by
    have hperm : classes.Perm answers.reduceOption.dedup := by
      rw [List.perm_ext_iff_of_nodup hholds.nodup (List.nodup_dedup _)]
      intro c
      rw [hmem, List.mem_dedup, List.reduceOption_mem_iff]
      simp
    rw [← hperm.length_eq, ← List.length_map (·.2), hholds.resolved, List.length_map]
  subst hp
  refine ⟨answers, hanswered.agrees ((isQuiet_scanAll _ _).agreesWith_of_run hall), ?_, ?_, ?_,
    hs.operations⟩
  · have hskipped : p.skipped + found.length = 0 + res.unresolved.length + res.resolved.length :=
      hs.skipped
    have hduplicates : p.duplicates = 0 + res.duplicates.length := hs.duplicates
    have htotal : res.total = 0 + identifiers.length := htotal
    rw [Resolution.total] at htotal
    omega
  · rw [hs.classes, hclasses]
    exact Nat.zero_add _
  · rw [hs.macros]
    exact Nat.zero_add _

/-- A generator after it has collected in these states, one after the other, whatever came of it. -/
def after (w : World) (g : Generator) (states : List State) : Generator :=
  states.foldl (fun g σ => (g.collect w (Reach.of w) (MacroStubs.importModule w) σ).1.2) g

/-- The counts of a collection in a state, if it succeeds. -/
def counts? (w : World) (identifiers : List String) (σ : State) : Option Progress :=
  ((collected w (Reach.of w) (MacroStubs.importModule w) identifiers).run σ).1.toOption.map (·.1)

theorem collect_generator (g : Generator) (σ : State) :
    (g.collect w (Reach.of w) (MacroStubs.importModule w) σ).1.2 =
      { g with progress := (counts? w g.classes σ).or g.progress } := by
  rw [collect, counts?]
  split
  · rename_i hc
    rw [hc]
    rfl
  · rename_i hc
    rw [hc]
    rfl

/-- A generator keeps the counts of the last collection that succeeded. -/
theorem after_eq (g : Generator) (states : List State) : g.after w states =
    { g with progress := (states.filterMap (counts? w g.classes)).getLast?.or g.progress } := by
  induction states using List.reverseRecOn with
  | nil => rfl
  | append_singleton init σ ih =>
    rw [after, List.foldl_append, List.foldl_cons, List.foldl_nil, ← after, ih, collect_generator,
      List.filterMap_append, List.getLast?_append, Option.or_assoc]
    cases hc : counts? w g.classes σ <;> simp [hc]

end Generator

/-- A collection that succeeds counts each identifier once: its class is collected, or it is skipped, or it
is a duplicate. The classes that are counted are those that the identifiers name, each once, the macros
are those collected, and no operation stays open. A generator whose collection fails has the counts of the
last one that succeeded, if there was any. -/
theorem counts_of_collection (w : World) (ids : List String) (states : List State) (σ : State) :
    let g := Generator.after w { classes := ids } states
    match g.collect w (Reach.of w) (importModule w) σ with
    | ((.ok found, g'), σ') => ∃ p answers, g'.progress = some p ∧
        Resolution.Answered (Reach.of w) (importModule w) ids answers σ σ' ∧
        ids.length = found.length + p.skipped + p.duplicates ∧
        p.classes = answers.reduceOption.dedup.length ∧
        p.macros = (found.flatMap (·.entries)).length ∧ p.operations = []
    | ((.error _, g'), _) =>
        g'.progress = (states.filterMap (Generator.counts? w ids)).getLast? := by
  intro g
  have hg : g = ⟨ids, (states.filterMap (Generator.counts? w ids)).getLast?⟩ := by
    rw [← Option.or_none (o := List.getLast? _)]
    exact Generator.after_eq _ _
  rw [hg, Generator.collect]
  generalize hc : (Generator.collected w (Reach.of w) (importModule w) ids).run σ = outcome
  obtain ⟨result, σ'⟩ := outcome
  cases result with
  | error f => rfl
  | ok result =>
    obtain ⟨p, found⟩ := result
    obtain ⟨σ₀, p₀, τ, hσ, hscan, rfl, hτ⟩ := Generator.exists_scan_of_collected hc
    obtain ⟨answers, hanswered, hlength, hclasses, hmacros, hoperations⟩ :=
      Generator.counts_of_scan hscan rfl
    refine ⟨_, answers, rfl, (hanswered.agrees hτ).of_agrees hσ, hlength, hclasses, hmacros, ?_⟩
    rw [hoperations]
    rfl

end MacroStubs
