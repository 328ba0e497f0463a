import MacroStubs.Proofs.Stub.Writing
import MacroStubs.World.Build

/-! # Completion of stubs

Which macros can be declared. A stub is written to its end exactly if each of its macros can, and
then it holds one definition for each, in their order.
-/

namespace MacroStubs

variable {w : World} {σ : State}

section

variable {labels : Labels}

/-- A default of this parameter has a literal text or is left out. -/
def Parameter.IsWritable (labels : Labels) (p : Parameter Value) : Prop :=
  p.kind.isExtra = false → ∀ v, p.default = some v → ∃ text, v.literal? labels = .ok text

namespace Parameter

theorem text_of_isExtra {p : Parameter Value} (h : p.kind.isExtra = true) :
    ∃ text, p.text labels = .ok text := by
  rw [text]
  cases hk : p.kind with
  | extraPositional => exact ⟨_, rfl⟩
  | extraKeyword => exact ⟨_, rfl⟩
  | positionalOnly => simp [hk, ParameterKind.isExtra] at h
  | positionalOrKeyword => simp [hk, ParameterKind.isExtra] at h
  | keywordOnly => simp [hk, ParameterKind.isExtra] at h

theorem text_eq_of_not_isExtra {p : Parameter Value} (h : p.kind.isExtra = false) :
    p.text labels = (p.defaultText? labels).map fun
      | none => p.name.toList
      | some text => p.name.toList ++ '=' :: text := by
  rw [text]
  cases hk : p.kind with
  | extraPositional => simp [hk, ParameterKind.isExtra] at h
  | extraKeyword => simp [hk, ParameterKind.isExtra] at h
  | positionalOnly | positionalOrKeyword | keywordOnly =>
    cases p.defaultText? labels with
    | error f => rfl
    | ok text? => cases text? <;> rfl

theorem text_isOk_iff {p : Parameter Value} :
    (∃ text, p.text labels = .ok text) ↔ p.IsWritable labels := by
  cases h : p.kind.isExtra with
  | true => exact iff_of_true (text_of_isExtra h) fun he => absurd (h.symm.trans he) nofun
  | false =>
    rw [text_eq_of_not_isExtra h, defaultText?, IsWritable, h]
    simp only [map_eq_ok]
    cases p.default with
    | none => simp [pure, Except.pure]
    | some v => simp

end Parameter

namespace ParameterList

theorem parts_isOk_iff (star : Bool) {ps : ParameterList} :
    (∃ parts, ParameterList.parts labels star ps = .ok parts) ↔ ∀ p ∈ ps, p.IsWritable labels := by
  induction ps generalizing star with
  | nil => simp [parts, pure, Except.pure]
  | cons p rest ih =>
    rw [List.forall_mem_cons, ← Parameter.text_isOk_iff, parts]
    simp only [bind_eq_ok, pure_eq_ok]
    constructor
    · rintro ⟨_, text, ht, later, hl, -⟩
      exact ⟨⟨text, ht⟩, (ih _).mp ⟨later, hl⟩⟩
    · rintro ⟨⟨text, ht⟩, hrest⟩
      obtain ⟨later, hl⟩ := (ih _).mpr hrest
      exact ⟨_, text, ht, later, hl, rfl⟩

theorem text_isOk_iff {ps : ParameterList} :
    (∃ text, ParameterList.text labels ps = .ok text) ↔ ∀ p ∈ ps, p.IsWritable labels := by
  rw [← parts_isOk_iff false]
  simp only [text, map_eq_ok]
  constructor
  · rintro ⟨_, parts, hp, -⟩
    exact ⟨parts, hp⟩
  · rintro ⟨parts, hp⟩
    exact ⟨_, parts, hp, rfl⟩

end ParameterList

namespace Declaration

theorem isWritable_anyParameters : ∀ p ∈ anyParameters, p.IsWritable labels := by
  simp [anyParameters, Parameter.IsWritable]

/-- A receiver in front has no default. -/
theorem isWritable_declared_iff (includesReceiver marked : Bool) {ps : ParameterList} :
    (∀ p ∈ declared includesReceiver marked ps, p.IsWritable labels) ↔
      ∀ p ∈ ps, p.IsWritable labels := by
  rw [declared]
  split
  · rw [List.forall_mem_cons]
    refine and_iff_right fun _ _ h => ?_
    cases h
  · exact Iff.rfl

/-- The text of parameters that take any arguments, behind a receiver or not. -/
theorem text_declared_anyParameters (includesReceiver marked : Bool) :
    ParameterList.text labels (declared includesReceiver marked anyParameters) =
      .ok (if marked then "self, *args, **kwargs".toList else "*args, **kwargs".toList) := by
  cases includesReceiver <;> cases marked <;> rfl

end Declaration

theorem Reflection.declared?_eq_ok {r : Reflection} {d : Declared} :
    r.declared? labels = .ok d ↔ ∃ ps, r.parametersOrAny = .ok ps ∧ r.docstring = .ok d.docstring ∧
      d.name = r.name ∧
      ParameterList.text labels
        (Declaration.declared r.includesReceiver (isMarked d.docstring) ps) =
          .ok d.parameters.toList := by
  simp only [declared?, bind_eq_ok, pure_eq_ok, method?_eq_ok]
  constructor
  · rintro ⟨_, ⟨ps, doc, hps, hdoc, rfl⟩, text, htext, rfl⟩
    exact ⟨ps, hps, hdoc, rfl, by simpa using htext⟩
  · rintro ⟨ps, hps, hdoc, hname, htext⟩
    refine ⟨_, ⟨ps, d.docstring, hps, hdoc, rfl⟩, d.parameters.toList, htext, ?_⟩
    rw [String.ofList_toList, ← hname]

end

/-- What a declaration takes to be written: parameters that can be reflected or whose reflection
fails as that of a callable without a signature does, documentation, and defaults that can be put as
literals or be left out. -/
structure Macro.IsTold (w : World) (σ : State) (m : Macro) : Prop where
  reflected : ∀ f, m.parameters w (Reach.of w) σ = .error f → f.isValueOrType = true
  documented : ∃ doc, m.docstring (Reach.of w) σ = .ok doc
  written : ∀ ps, m.parameters w (Reach.of w) σ = .ok ps →
    ∀ p ∈ ps, p.IsWritable (labels w (Reach.of w) σ)

theorem Macro.IsTold.of_parameters {m : Macro} {ps : ParameterList} {doc : Option String}
    (hps : m.parameters w (Reach.of w) σ = .ok ps) (hdoc : m.docstring (Reach.of w) σ = .ok doc)
    (hwritable : ∀ p ∈ ps, p.IsWritable (labels w (Reach.of w) σ)) : m.IsTold w σ where
  reflected := fun _ hf => absurd (hps.symm.trans hf) nofun
  documented := ⟨doc, hdoc⟩
  written := fun _ hqs => Except.ok.inj (hps.symm.trans hqs) ▸ hwritable

theorem Macro.IsTold.of_failure {m : Macro} {f : Failure} {doc : Option String}
    (hf : m.parameters w (Reach.of w) σ = .error f) (hkind : f.isValueOrType = true)
    (hdoc : m.docstring (Reach.of w) σ = .ok doc) : m.IsTold w σ where
  reflected := fun _ hf' => Except.error.inj (hf.symm.trans hf') ▸ hkind
  documented := ⟨doc, hdoc⟩
  written := fun _ hqs => absurd (hf.symm.trans hqs) nofun

/-- A pair without a method of this name is not told: the failure is that of an attribute. -/
theorem Macro.IsTold.held {c : ClassId} {name : String} (h : (method c name).IsTold w σ) :
    ∃ v, Attribute.static? σ (.cls c) name = some v := by
  obtain ⟨doc, hdoc⟩ := h.documented
  obtain ⟨v, hv, -⟩ := bind_eq_ok.mp hdoc
  rw [raw] at hv
  cases hs : Attribute.static? σ (.cls c) name with
  | none => simp [hs] at hv
  | some v => exact ⟨v, rfl⟩

structure ClassMacros.IsTold (w : World) (σ : State) (c : ClassMacros) : Prop where
  module : ∃ text, c.module.shown (labels w (Reach.of w) σ) = .ok text
  className : ∃ text, c.className.shown (labels w (Reach.of w) σ) = .ok text
  entries : ∀ e ∈ c.entries, e.entry.IsTold w σ

/-- What the declaration of a macro holds. One that cannot be reflected takes any arguments. -/
structure Entry.IsDeclaredAs (w : World) (σ : State) (e : Entry) (d : Declared) : Prop where
  name : d.name = e.name
  docstring : e.entry.docstring (Reach.of w) σ = .ok d.docstring
  reflected : ∀ ps, e.entry.parameters w (Reach.of w) σ = .ok ps →
    ParameterList.text (labels w (Reach.of w) σ)
      (Declaration.declared e.entry.includesReceiver (isMarked d.docstring) ps) =
        .ok d.parameters.toList
  unreflected : ∀ f, e.entry.parameters w (Reach.of w) σ = .error f →
    d.parameters = if isMarked d.docstring then "self, *args, **kwargs" else "*args, **kwargs"

/-- What the block of a class holds: one declaration for each macro, in their order. -/
structure ClassMacros.IsWrittenAs (w : World) (σ : State) (c : ClassMacros) (stub : ClassStub) :
    Prop where
  module : c.module.shown (labels w (Reach.of w) σ) = .ok stub.module
  className : c.className.shown (labels w (Reach.of w) σ) = .ok stub.className
  entries : List.Forall₂ (Entry.IsDeclaredAs w σ) c.entries stub.declarations

theorem Entry.declared?_isOk_iff {e : Entry} :
    (∃ d, (e.reflect w (Reach.of w) σ).declared? (labels w (Reach.of w) σ) = .ok d) ↔
      e.entry.IsTold w σ := by
  simp only [Reflection.declared?_eq_ok]
  constructor
  · rintro ⟨d, ps, hps, hdoc, -, htext⟩
    have hwritable := (Declaration.isWritable_declared_iff _ _).mp
      (ParameterList.text_isOk_iff.mp ⟨_, htext⟩)
    refine ⟨?_, ⟨_, hdoc⟩, ?_⟩
    · intro f hf
      rcases Reflection.parametersOrAny_eq_ok.mp hps with hqs | ⟨f', hf', hkind, -⟩
      · exact absurd (hf.symm.trans hqs) nofun
      · obtain rfl : f = f' := Except.error.inj (hf.symm.trans hf')
        exact hkind
    · intro qs hqs
      obtain rfl : qs = ps :=
        Except.ok.inj ((Reflection.parametersOrAny_of_ok hqs).symm.trans hps)
      exact hwritable
  · rintro ⟨hreflected, ⟨doc, hdoc⟩, hwritten⟩
    obtain ⟨ps, hps, hwritable⟩ : ∃ ps, (e.reflect w (Reach.of w) σ).parametersOrAny = .ok ps ∧
        ∀ p ∈ ps, p.IsWritable (labels w (Reach.of w) σ) := by
      cases hqs : e.entry.parameters w (Reach.of w) σ with
      | ok qs => exact ⟨qs, Reflection.parametersOrAny_of_ok hqs, hwritten qs hqs⟩
      | error f =>
        exact ⟨_, Reflection.parametersOrAny_eq_ok.mpr (.inr ⟨f, hqs, hreflected f hqs, rfl⟩),
          Declaration.isWritable_anyParameters⟩
    obtain ⟨text, htext⟩ := ParameterList.text_isOk_iff.mpr <|
      (Declaration.isWritable_declared_iff e.entry.includesReceiver (isMarked doc)).mpr hwritable
    refine ⟨{ name := e.name, parameters := String.ofList text, docstring := doc }, ps, hps, hdoc,
      rfl, ?_⟩
    rw [String.toList_ofList]
    exact htext

theorem Entry.isDeclaredAs_of_declared? {e : Entry} {d : Declared}
    (h : (e.reflect w (Reach.of w) σ).declared? (labels w (Reach.of w) σ) = .ok d) :
    e.IsDeclaredAs w σ d := by
  obtain ⟨ps, hps, hdoc, hname, htext⟩ := Reflection.declared?_eq_ok.mp h
  refine ⟨hname, hdoc, ?_, ?_⟩
  · intro qs hqs
    obtain rfl : qs = ps := Except.ok.inj ((Reflection.parametersOrAny_of_ok hqs).symm.trans hps)
    exact htext
  · intro f hf
    rcases Reflection.parametersOrAny_eq_ok.mp hps with hqs | ⟨-, -, -, rfl⟩
    · exact absurd (hf.symm.trans hqs) nofun
    · rw [Declaration.text_declared_anyParameters] at htext
      apply String.toList_inj.mp
      rw [← Except.ok.inj htext]
      split <;> rfl

namespace ClassMacros

theorem stub?_isOk_iff {c : ClassMacros} :
    (∃ stub, (c.reflect w (Reach.of w) σ).stub? (labels w (Reach.of w) σ) = .ok stub) ↔
      c.IsTold w σ := by
  simp only [ClassReflection.stub?, bind_eq_ok, pure_eq_ok]
  have hentries : (∃ ds, (c.reflect w (Reach.of w) σ).entries.mapM
      (fun r => r.declared? (labels w (Reach.of w) σ)) = .ok ds) ↔
        ∀ e ∈ c.entries, e.entry.IsTold w σ := by
    rw [exists_mapM_eq_ok]
    simp only [reflect, List.forall_mem_map, Entry.declared?_isOk_iff]
  constructor
  · rintro ⟨_, module, hm, className, hc, ds, hds, -⟩
    exact ⟨⟨module, hm⟩, ⟨className, hc⟩, hentries.mp ⟨ds, hds⟩⟩
  · rintro ⟨⟨module, hm⟩, ⟨className, hc⟩, he⟩
    obtain ⟨ds, hds⟩ := hentries.mpr he
    exact ⟨_, module, hm, className, hc, ds, hds, rfl⟩

theorem isWrittenAs_of_stub? {c : ClassMacros} {stub : ClassStub}
    (h : (c.reflect w (Reach.of w) σ).stub? (labels w (Reach.of w) σ) = .ok stub) :
    c.IsWrittenAs w σ stub := by
  obtain ⟨module, hm, h⟩ := bind_eq_ok.mp h
  obtain ⟨className, hc, h⟩ := bind_eq_ok.mp h
  obtain ⟨ds, hds, h⟩ := bind_eq_ok.mp h
  obtain rfl := pure_eq_ok.mp h
  refine ⟨hm, hc, ?_⟩
  have hall := mapM_eq_ok.mp hds
  rw [reflect, List.forall₂_map_left_iff] at hall
  exact hall.imp fun _ _ => Entry.isDeclaredAs_of_declared?

/-- The stub of some classes, as far as it can be written, and what comes of it. -/
def write (w : World) (σ : State) (classes : List ClassMacros) : Except Failure Unit × Sheet :=
  (Declaration.writeStub (labels w (Reach.of w) σ)
    (classes.map (·.reflect w (Reach.of w) σ))).run {}

theorem write_isOk_iff {classes : List ClassMacros} :
    (write w σ classes).1 = .ok () ↔ ∀ c ∈ classes, c.IsTold w σ := by
  obtain ⟨s, hrun, -⟩ := Declaration.writeStub_run (labels w (Reach.of w) σ)
    (classes.map (·.reflect w (Reach.of w) σ))
  rw [write, hrun]
  simp only [map_eq_ok, and_true]
  rw [ClassReflection.stubs?, exists_mapM_eq_ok]
  simp only [List.forall_mem_map, stub?_isOk_iff]

/-- A stub that is written to its end holds the lines of its classes. -/
theorem write_eq_ok {classes : List ClassMacros} (h : (write w σ classes).1 = .ok ()) :
    ∃ stubs, List.Forall₂ (IsWrittenAs w σ) classes stubs ∧
      (write w σ classes).2.text.toList = Line.written (ClassStub.linesOf stubs) := by
  obtain ⟨stubs, hstubs, htext⟩ := Declaration.writeStub_eq_ok (Prod.ext h rfl)
  refine ⟨stubs, ?_, htext⟩
  rw [ClassReflection.stubs?, mapM_eq_ok, List.forall₂_map_left_iff] at hstubs
  exact hstubs.imp fun _ _ => isWrittenAs_of_stub?

end ClassMacros

/-- A stub is written to its end exactly if each of its macros can be declared, and then it has one
definition for each, in their order. -/
theorem stub_completes_iff (w : World) (σ : State) (classes : List ClassMacros) :
    ((ClassMacros.write w σ classes).1 = .ok () ↔ ∀ c ∈ classes, c.IsTold w σ) ∧
      ((ClassMacros.write w σ classes).1 = .ok () →
        ∃ stubs, List.Forall₂ (ClassMacros.IsWrittenAs w σ) classes stubs ∧
          (ClassMacros.write w σ classes).2.text.toList =
            Line.written (ClassStub.linesOf stubs) ∧
          (ClassStub.linesOf stubs).filter Line.isDefinition =
            Line.at' 1 (stubs.flatMap fun c => c.declarations.map (·.definition))) := by
  refine ⟨ClassMacros.write_isOk_iff, ?_⟩
  intro h
  obtain ⟨stubs, hstubs, htext⟩ := ClassMacros.write_eq_ok h
  exact ⟨stubs, hstubs, htext, ClassStub.filter_linesOf_isDefinition stubs⟩

namespace Shop

def add : Value :=
  .function "add" "add" [{ name := "a", default := some (.int 1) }] .null (.returns .null)

def slug : Value :=
  .function "slug" "slug" [{ name := "text" }] (.str "Trims.") (.returns .null)

def site : Site :=
  (Site.empty default).addClass "Helpers" "Helpers" "Helpers" "app" [] .null
    [("slug", .staticMethod none slug)]

/-- A shop with a pair for the method of this name. -/
def shop (method : String) : ClassMacros where
  module := .str "app"
  className := .str "Shop"
  entries :=
    [{ name := "add", entry := .callable add },
     { name := "three", entry := .callable (.int 3) },
     { name := "slug", entry := .method (.defined "Helpers") method },
     { name := "more", entry := .callable add }]

theorem isWritable_of_add {labels : Labels} :
    ∀ p ∈ [({ name := "a", default := some (.int 1) } : Parameter Value)], p.IsWritable labels := by
  intro p hp _ v hv
  obtain rfl := List.mem_singleton.mp hp
  obtain rfl := Option.some.inj hv
  exact ⟨_, rfl⟩

theorem isTold : (shop "slug").IsTold site.world site.state where
  module := ⟨_, rfl⟩
  className := ⟨_, rfl⟩
  entries := by
    have hadd : (Macro.callable add).IsTold site.world site.state :=
      .of_parameters rfl rfl isWritable_of_add
    have hthree : (Macro.callable (.int 3)).IsTold site.world site.state :=
      .of_failure rfl rfl rfl
    have hps : (Macro.method (.defined "Helpers") "slug").parameters site.world
        (Reach.of site.world) site.state = .ok [{ name := "text" }] := rfl
    have hslug := Macro.IsTold.of_parameters hps rfl (by simp [Parameter.IsWritable])
    simp [shop, hadd, hthree, hslug]

end Shop

/-- A macro that is no callable takes any arguments, and those behind it are declared. -/
theorem shop_stub_completes :
    (ClassMacros.write Shop.site.world Shop.site.state [Shop.shop "slug"]).1 = .ok () ∧
      ∃ stubs, List.Forall₂ (ClassMacros.IsWrittenAs Shop.site.world Shop.site.state)
          [Shop.shop "slug"] stubs ∧
        ((ClassStub.linesOf stubs).filter Line.isDefinition).length = 4 := by
  obtain ⟨hok, hlines⟩ := stub_completes_iff Shop.site.world Shop.site.state [Shop.shop "slug"]
  have h := hok.mpr (by simp [Shop.isTold])
  obtain ⟨stubs, hstubs, -, hdefs⟩ := hlines h
  refine ⟨h, stubs, hstubs, ?_⟩
  obtain ⟨stub, rest, hc, hrest, rfl⟩ := List.forall₂_cons_left_iff.mp hstubs
  obtain rfl := List.forall₂_nil_left_iff.mp hrest
  rw [hdefs]
  simp [Line.at', ← hc.entries.length_eq, Shop.shop]

/-- A pair whose target has no such method ends the stub, whatever stands behind it. -/
theorem shop_stub_incomplete :
    ¬ (ClassMacros.write Shop.site.world Shop.site.state [Shop.shop "slugify"]).1 = .ok () := by
  intro h
  have htold := ClassMacros.write_isOk_iff.mp h _ (List.mem_singleton_self _)
  have hpair : { name := "slug", entry := .method (.defined "Helpers") "slugify" } ∈
      (Shop.shop "slugify").entries := by simp [Shop.shop]
  obtain ⟨v, hv⟩ := (htold.entries _ hpair).held
  have hmissing : Attribute.static? Shop.site.state (.cls (.defined "Helpers")) "slugify" = none :=
    rfl
  exact absurd (hmissing.symm.trans hv) nofun

end MacroStubs
