import MacroStubs.Proofs.Collection.Attempts
import MacroStubs.Proofs.Collection.Extraction
import MacroStubs.Proofs.Collection.Scan

/-! # The state that is extracted from

All identifiers are resolved before anything is extracted, so what is collected from every class is what
it holds when the last identifier has been resolved: also what the import of the last module registered,
and what a module registered before it failed.
-/

namespace MacroStubs

variable {α β : Type} {w : World} {r : Reach} {σ σ' τ : State}

/-- What a step gives if it does not fail, whatever the host is. -/
def Run.GivesOnly (σ : State) (x : Run α) (p : α → Prop) : Prop :=
  ∀ host a, (x.run { σ with host }).1 = .ok a → p a

namespace Run.GivesOnly

variable {x : Run α} {f : α → Run β} {p : α → Prop} {q : β → Prop}

theorem of_run {a : α} (hx : x.GivesOnly σ p) (h : x.run σ = (.ok a, τ)) : p a :=
  hx σ.host a (congrArg Prod.fst h)

theorem pure {a : α} (h : p a) : (Pure.pure a : Run α).GivesOnly σ p := fun _ _ he =>
  Except.ok.inj he ▸ h

theorem throw (failure : Failure) : (MonadExcept.throw failure : Run α).GivesOnly σ p := fun _ _ h =>
  nomatch h

theorem bind (hx : x.GivesOnly σ p) (hs : x.IsQuiet σ) (hf : ∀ a, p a → (f a).GivesOnly σ q) :
    (x >>= f).GivesOnly σ q := by
  intro host b h
  have hp := hx host
  obtain ⟨host', hs⟩ := hs host
  rw [Run.run_bind] at h
  generalize x.run { σ with host } = outcome at hp hs h
  obtain ⟨result, τ⟩ := outcome
  obtain rfl : τ = { σ with host := host' } := hs
  cases result with
  | ok a => exact hf a (hp a rfl) host' b h
  | error failure => cases h

/-- What a quiet step gives may not matter. -/
theorem bind_any (hs : x.IsQuiet σ) (hf : ∀ a, (f a).GivesOnly σ q) : (x >>= f).GivesOnly σ q :=
  bind (fun _ _ _ => trivial) hs fun a (_ : True) => hf a

theorem bind_get {f : State → Run β} (hf : ∀ host, (f { σ with host }).GivesOnly σ q) :
    ((MonadState.get : Run State) >>= f).GivesOnly σ q := fun host => hf host host

end Run.GivesOnly

namespace Extraction

variable {cls : Value}

/-- The first field that a class has, with its entries, if it maps names to macros. -/
def stored? (σ : State) (cls : Value) : List String → Option (String × List (Value × Value))
  | [] => none
  | field :: rest =>
    match Attribute.static? σ cls field with
    | none => stored? σ cls rest
    | some v => (σ.payload v).entries?.map (field, ·)

/-- What a class holds: the macros of its storage that can be declared, none if there are none. -/
def held? (σ : State) (cls : Value) : Option (String × List Entry) :=
  (stored? σ cls storageFields).bind fun s =>
    if (entriesOf σ s.2).isEmpty then none else some (s.1, entriesOf σ s.2)

theorem storage?_gives (fields : List String) :
    (storage? w r cls fields).GivesOnly σ (· = stored? σ cls fields) := by
  induction fields with
  | nil => exact .pure rfl
  | cons field rest ih =>
    have hstatic (host : Host) : Attribute.static? { σ with host } cls field =
      Attribute.static? σ cls field := rfl
    have hpayload (host : Host) (v : Value) : State.payload { σ with host } v = σ.payload v := rfl
    rw [storage?, stored?]
    refine .bind_get fun host => ?_
    rw [hstatic]
    cases Attribute.static? σ cls field with
    | none => exact ih
    | some v =>
      simp only [hpayload]
      cases (σ.payload v).entries? with
      | some entries => exact .pure rfl
      | none => exact .bind_any (isQuiet_told _) fun _ => .bind_any (.debug _ _) fun _ => .pure rfl

theorem declarable_gives (entries : List (Value × Value)) :
    (declarable w r cls entries).GivesOnly σ (· = entriesOf σ entries) := by
  induction entries with
  | nil => exact .pure rfl
  | cons e rest ih =>
    obtain ⟨key, v⟩ := e
    have hrefused : (do declarable.refuse w r cls key; declarable w r cls rest).GivesOnly σ
        (· = entriesOf σ rest) := .bind_any (isQuiet_refuse key) fun _ => ih
    rw [declarable, entriesOf, List.filterMap_cons]
    cases key.text? with
    | none => exact hrefused
    | some name =>
      dsimp only [Option.bind_some]
      split
      · refine .bind_get fun host => ih.bind (isQuiet_declarable rest) fun later hl => .pure ?_
        rw [hl]
        rfl
      · exact hrefused

/-- What is extracted from a class is what it holds. -/
theorem extract_gives : (extract w r storageFields cls).GivesOnly σ fun part =>
    part.map (fun c => (c.field, c.entries)) = held? σ cls := by
  rw [extract, held?]
  refine (storage?_gives _).bind (isQuiet_storage? _) fun found hfound => ?_
  rw [← hfound]
  cases found with
  | none =>
    exact .bind_any (isQuiet_told _) fun _ => .bind_any (isQuiet_told _) fun _ =>
      .bind_any (.debug _ _) fun _ => .pure rfl
  | some s =>
    obtain ⟨field, entries⟩ := s
    refine (declarable_gives _).bind (isQuiet_declarable _) fun found hfound => ?_
    subst hfound
    simp only [Option.bind_some]
    split
    · exact .bind_any (isQuiet_told _) fun _ => .bind_any (.debug _ _) fun _ => .pure rfl
    · exact .bind_any (.read _) fun _ => .bind_any (.read _) fun _ => .pure rfl

end Extraction

namespace Generator

theorem scanClass_gives (identifier : String) (cls : Value) (p : Progress) :
    (scanClass w r identifier cls p).GivesOnly σ fun result =>
      result.2.map (fun c => (c.field, c.entries)) = Extraction.held? σ cls := by
  rw [scanClass]
  refine .bind_any (.debug _ _) fun _ =>
    Extraction.extract_gives.bind (Extraction.isQuiet_extract _) fun found hfound =>
      .bind_any isQuiet_elapsed fun time => ?_
  split
  split
  · exact .bind_any (.report _ _ _) fun _ => .pure hfound
  · exact .pure hfound

/-- What a scan finds is what the classes hold, in their order. -/
theorem scanAll_gives (resolved : List (String × Value)) (p : Progress) :
    (scanAll w r resolved p).GivesOnly σ fun result =>
      result.2.map (fun c => (c.field, c.entries)) =
        resolved.filterMap fun e => Extraction.held? σ e.2 := by
  induction resolved generalizing p with
  | nil => exact .pure rfl
  | cons e rest ih =>
    obtain ⟨identifier, cls⟩ := e
    rw [scanAll]
    refine (scanClass_gives _ _ _).bind (isQuiet_scanClass _ _ _) ?_
    rintro ⟨p, part⟩ hpart
    refine (ih p).bind (isQuiet_scanAll _ _) ?_
    rintro ⟨p, later⟩ hlater
    refine .pure ?_
    dsimp only at hpart hlater ⊢
    rw [List.map_append, hlater, List.filterMap_cons, ← hpart]
    cases part <;> rfl

variable {importModule : String → Run Unit} {identifiers : List String}
variable {p : Progress} {found : List ClassMacros}

/-- What is collected is what a scan found within one operation, which is left then. -/
theorem exists_scan_of_collected
    (h : (collected w r importModule identifiers).run σ = (.ok (p, found), σ')) :
    ∃ σ₀ p₀ τ, σ.AgreesWith σ₀ ∧
      (scan w r importModule identifiers (Progress.enterOperation "macro discovery" {}).1).run σ₀ =
        (.ok (p₀, found), τ) ∧
      p = { p₀ with operations := p₀.operations.dropLast } ∧ τ.AgreesWith σ' := by
  rw [collected] at h
  dsimp only [Progress.enterOperation, Progress.leave] at h ⊢
  obtain ⟨_, σ₀, hreport, h⟩ := Run.run_bind_eq_ok.mp h
  have hagrees : σ.AgreesWith σ₀ := (Run.IsQuiet.debug _ _).agreesWith_of_run hreport
  rw [Run.attempt_bind] at h
  generalize hscan : (scan w r importModule identifiers _).run σ₀ = outcome at h
  obtain ⟨result, ρ⟩ := outcome
  cases result with
  | error f =>
    refine ((?_ : Run.GivesOnly ρ _ fun _ => False).of_run h).elim
    refine .bind_any isQuiet_elapsed fun _ => ?_
    split
    · exact .bind_any (.report _ _ _) fun _ => .throw f
    · exact .throw f
  | ok result =>
    obtain ⟨p₀, found₀⟩ := result
    have hgives : p = { p₀ with operations := p₀.operations.dropLast } ∧ found₀ = found := by
      refine (?_ : Run.GivesOnly ρ _ fun result =>
        result.1 = { p₀ with operations := p₀.operations.dropLast } ∧ found₀ = result.2).of_run h
      exact .bind_any isQuiet_elapsed fun _ => .bind_any (.report _ _ _) fun _ =>
        .bind_any isQuiet_elapsed fun _ => .bind_any (.debug _ _) fun _ =>
          .bind_any .get fun _ => .bind_any (.debug _ _) fun _ => .pure ⟨rfl, rfl⟩
    have hlast : ρ.AgreesWith σ' := by
      refine (?_ : Run.IsQuiet ρ _).agreesWith_of_run h
      exact .bind isQuiet_elapsed fun _ => .bind (.report _ _ _) fun _ =>
        .bind isQuiet_elapsed fun _ => .bind (.debug _ _) fun _ =>
          .bind .get fun _ => .bind (.debug _ _) fun _ => .pure _
    obtain ⟨hp, rfl⟩ := hgives
    exact ⟨σ₀, p₀, ρ, hagrees, hscan, hp, hlast⟩

/-- Where something is collected, the identifiers were resolved and then the classes scanned. -/
theorem collected_eq_ok (h : (collected w r importModule identifiers).run σ = (.ok (p, found), σ')) :
    ∃ σ₀ res τ, σ.AgreesWith σ₀ ∧
      (Resolution.ofIdentifiers r importModule identifiers).run σ₀ = (.ok res, τ) ∧
      found.map (fun c => (c.field, c.entries)) =
        res.resolved.filterMap (fun e => Extraction.held? τ e.2) ∧
      τ.AgreesWith σ' := by
  obtain ⟨σ₀, p₀, ρ, hagrees, hscan, -, hlast⟩ := exists_scan_of_collected h
  obtain ⟨res, τ, hres, hall⟩ := Run.run_bind_eq_ok.mp hscan
  exact ⟨σ₀, res, τ, hagrees, hres, (scanAll_gives _ _).of_run hall,
    ((isQuiet_scanAll _ _).agreesWith_of_run hall).trans hlast⟩

end Generator

/-- What is collected from each class that was resolved is what the class holds when the last identifier
has been resolved, and extracting changes nothing but the host. Until then modules were imported, one
attempt after another, each of which left what it did; and an import that fails takes nothing from any
class that the body gave it. -/
theorem collected_of_last_state {g g' : Generator} {found : List ClassMacros}
    (h : g.collect w (Reach.of w) (importModule w) σ = ((.ok found, g'), σ')) :
    ∃ σ₀ res τ, σ.AgreesWith σ₀ ∧
      (Resolution.ofIdentifiers (Reach.of w) (importModule w) g.classes).run σ₀ = (.ok res, τ) ∧
      τ.AgreesWith σ' ∧
      found.map (fun c => (c.field, c.entries)) =
        res.resolved.filterMap (fun e => Extraction.held? τ e.2) ∧
      (∃ attempts, Attempted (importModule w) attempts σ₀ τ ∧ ∀ a ∈ attempts,
        a.1 ∈ g.classes.flatMap fun id => Resolution.modulesOf (Text.trim id).toList) ∧
      (∀ init last, g.classes = init ++ [last] → ∃ done σ₁ answer τ',
        (Resolution.ofIdentifiers (Reach.of w) (importModule w) init).run σ₀ = (.ok done, σ₁) ∧
        (Resolution.resolve (Reach.of w) (importModule w) last).run σ₁ = (.ok answer, τ') ∧
        τ'.AgreesWith τ ∧ done.resolved <+: res.resolved) ∧
      ∀ body m ρ f ρ', (Import.load w body m).run ρ = (.error f, ρ') → ∀ c,
        Extraction.held? ρ' (.cls c) =
          Extraction.held? ((body m).run (Import.entered w m ρ)).2 (.cls c) := by
  have hcollected : ∃ p, (Generator.collected w (Reach.of w) (importModule w) g.classes).run σ =
      (.ok (p, found), σ') := by
    rw [Generator.collect] at h
    split at h
    · rename_i p found' τ hc
      obtain ⟨hfound, rfl⟩ := Prod.mk.inj h
      obtain rfl := Except.ok.inj (Prod.mk.inj hfound).1
      exact ⟨p, hc⟩
    · cases h
  obtain ⟨p, hcollected⟩ := hcollected
  obtain ⟨σ₀, res, τ, hσ, hres, hfound, hτ⟩ := Generator.collected_eq_ok hcollected
  refine ⟨σ₀, res, τ, hσ, hres, hτ, hfound, Resolution.attempted_of_run hres,
    fun init last hlast => ?_, ?_⟩
  · rw [hlast] at hres
    exact Resolution.ofIdentifiers_concat hres
  · intro body m ρ f ρ' hload c
    rw [Import.load_of_error hload]
    rfl

namespace Latecomers

/-- A class, and two modules that register macros on it, the first of which fails after that. -/
def site : Site :=
  ((Site.empty default).addClass "First" "First" "First" "app" [rootClass] .null []).addModules
    [{ name := "app", attributes := [("First", .cls (.defined "First"))] },
     { name := "broken"
       body := [.register (.cls (.defined "First")) (.str "kept") (.int 1)]
       failure := some { kind := "RuntimeError", message := "boom" } },
     { name := "late", body := [.register (.cls (.defined "First")) (.str "late") (.int 2)] }]

def generator : Generator where
  classes := ["app:First", "broken:Second", "late:Third"]

end Latecomers

open Latecomers in
/-- The first class has what the modules registered that were imported for the identifiers behind it, the
one of them that failed included. -/
theorem latecomers_collected :
    ∃ found g' σ', generator.collect site.world (Reach.of site.world) (importModule site.world)
        site.state = ((.ok found, g'), σ') ∧
      found.map (fun c => c.entries.map (·.name)) = [["kept", "late"]] ∧
      ∃ (res : Resolution) (τ : State), τ.AgreesWith σ' ∧
        found.map (fun c => (c.field, c.entries)) =
          res.resolved.filterMap (fun e => Extraction.held? τ e.2) := by
  have hnames : ((generator.collect site.world (Reach.of site.world) (importModule site.world)
      site.state).1.1.toOption.map fun found => found.map fun c => c.entries.map (·.name)) =
        some [["kept", "late"]] := by decide +kernel
  generalize hc : generator.collect site.world (Reach.of site.world) (importModule site.world)
    site.state = outcome at hnames
  obtain ⟨⟨result, g'⟩, σ'⟩ := outcome
  cases result with
  | error f => cases hnames
  | ok found =>
    obtain ⟨_, res, τ, -, -, hτ, hheld, -⟩ := collected_of_last_state hc
    exact ⟨found, g', σ', rfl, Option.some.inj hnames, res, τ, hτ, hheld⟩

end MacroStubs
