import MacroStubs.Proofs.Declaration.FunctionMacro

/-! # Receivers

What is declared as a method of an object takes the object first: its first parameter if that is
positional, and otherwise a receiver that is put in front. The receiver has a fixed name, which a
parameter behind it may have too.
-/

namespace MacroStubs

variable {w : World} {r : Reach} {σ : State} {e : Entry} {ps signed : ParameterList}
variable {doc : Option String}

def ParameterList.names (ps : ParameterList) : List String := ps.map (·.name)

namespace Macro

/-- The whole signature of what a macro is made of. -/
def reflected (w : World) (r : Reach) (σ : State) : Macro → Except Failure ParameterList
  | callable handle => signature w r σ handle
  | method owner name => do
    let v ← raw σ owner name
    signature w r σ ((static? v).getD (unbound v))

/-- Whether the first parameter of that signature is left to the target: it is that of a method which
is not static. -/
def isCalledThroughTarget (σ : State) : Macro → Bool
  | callable _ => false
  | method owner name =>
    match raw σ owner name with
    | .ok v => (static? v).isNone
    | .error _ => false

/-- The parameters of that signature that a caller passes. -/
def remaining (σ : State) (m : Macro) (signed : ParameterList) : ParameterList :=
  if m.isCalledThroughTarget σ then dropReceiver signed else signed

theorem parameters_of_reflected {m : Macro} (h : m.reflected w r σ = .ok signed) :
    m.parameters w r σ = .ok (m.remaining σ signed) := by
  cases m with
  | callable handle => exact h
  | method owner name =>
    obtain ⟨v, hv, hsigned⟩ := bind_eq_ok.mp h
    rw [parameters, remaining, isCalledThroughTarget, hv]
    cases hstatic : static? v with
    | some inner =>
      rw [hstatic, Option.getD_some] at hsigned
      simp only [bind, Except.bind, hstatic]
      exact hsigned
    | none =>
      rw [hstatic, Option.getD_none] at hsigned
      simp only [bind, Except.bind, hstatic, hsigned]
      rfl

theorem dropReceiver_sublist (ps : ParameterList) : (dropReceiver ps).Sublist ps := by
  cases ps with
  | nil => exact .slnil
  | cons p rest =>
    rw [dropReceiver]
    split
    · exact List.sublist_cons_self p rest
    · exact .refl _

theorem remaining_sublist (m : Macro) (signed : ParameterList) :
    (m.remaining σ signed).Sublist signed := by
  rw [remaining]
  split
  · exact dropReceiver_sublist signed
  · exact .refl _

end Macro

namespace Declaration

variable {includesReceiver instantiated : Bool}

/-- Distinct names stay distinct unless a receiver is put in front of one that has its name. -/
theorem nodup_declared_iff (h : ps.names.Nodup) :
    (declared includesReceiver instantiated ps).names.Nodup ↔
      instantiated = false ∨ startsWithReceiver includesReceiver ps = true ∨
        receiver.name ∉ ps.names := by
  rw [declared]
  cases instantiated <;> cases startsWithReceiver includesReceiver ps <;>
    simp_all [ParameterList.names]

/-- What a method of an object takes first is positional. -/
theorem declared_eq_cons (includesReceiver : Bool) (ps : ParameterList) :
    ∃ p rest, declared includesReceiver true ps = p :: rest ∧ p.kind.isPositional = true := by
  rw [declared, Bool.true_and]
  cases hs : startsWithReceiver includesReceiver ps with
  | false => exact ⟨receiver, ps, rfl, rfl⟩
  | true =>
    obtain ⟨-, hp⟩ := Bool.and_eq_true_iff.mp hs
    cases ps with
    | nil => cases hp
    | cons p rest => exact ⟨p, rest, rfl, hp⟩

end Declaration

/-- A macro with a signature of distinct names is declared as soon as its documentation can be told. A
method of an object takes the object first. No two names of the declaration are the same unless a
receiver is put in front of parameters of which one has its name. -/
theorem declared_names_nodup_iff (hsigned : e.entry.reflected w (Reach.of w) σ = .ok signed)
    (hnames : signed.names.Nodup) (hdoc : e.entry.docstring (Reach.of w) σ = .ok doc) :
    ∃ m, e.Declares w σ m ∧ m.static = !isMarked doc ∧
      (m.parameters.names.Nodup ↔ m.static = true ∨
        Declaration.startsWithReceiver e.entry.includesReceiver (e.entry.remaining σ signed) = true ∨
          "self" ∉ (e.entry.remaining σ signed).names) ∧
      (m.static = false → ∃ p rest, m.parameters = p :: rest ∧ p.kind.isPositional = true) := by
  have hany : (e.reflect w (Reach.of w) σ).parametersOrAny = .ok (e.entry.remaining σ signed) :=
    Reflection.parametersOrAny_of_ok (Macro.parameters_of_reflected hsigned)
  have hremaining : (e.entry.remaining σ signed).names.Nodup :=
    hnames.sublist ((Macro.remaining_sublist e.entry signed).map _)
  refine ⟨_, Reflection.method?_eq_ok.mpr ⟨_, doc, hany, hdoc, rfl⟩, rfl, ?_, fun hstatic => ?_⟩
  · rw [Bool.not_eq_true']
    exact Declaration.nodup_declared_iff hremaining
  · have hmarked : isMarked doc = true := by simpa using hstatic
    rw [hmarked]
    exact Declaration.declared_eq_cons _ _

namespace Padding

/-- A static method that pads something to a width. -/
def pad (title : String) : Value :=
  .staticMethod none
    (.function "pad" "pad" [{ name := title }, { name := "width" }] (.str "@instantiated")
      (.returns .null))

/-- A class that keeps the same static method twice, once with a parameter that has the name of the
receiver. -/
def site : Site :=
  (Site.empty default).addClass "Padding" "Padding" "Padding" "app" [] .null
    [("padText", pad "text"), ("padSelf", pad "self")]

/-- The static method with this name as a macro. -/
def entry (name : String) : Entry :=
  { name, entry := .ofValue site.state (.tuple [.cls (.defined "Padding"), .str name]) }

theorem isMarked_doc : isMarked (shownDocumentation (.str "@instantiated")) = true := by
  decide +kernel

end Padding

/-- A receiver is put in front of the text and the width. -/
theorem padText_declares_receiver :
    ∃ m, (Padding.entry "padText").Declares Padding.site.world Padding.site.state m ∧
      m.static = false ∧ m.parameters.names.Nodup := by
  have hsigned : (Padding.entry "padText").entry.reflected Padding.site.world
      (Reach.of Padding.site.world) Padding.site.state =
        .ok [{ name := "text" }, { name := "width" }] := rfl
  have hdoc : (Padding.entry "padText").entry.docstring (Reach.of Padding.site.world)
      Padding.site.state = .ok (shownDocumentation (.str "@instantiated")) := rfl
  obtain ⟨m, hm, hstatic, hnodup, -⟩ := declared_names_nodup_iff hsigned (by decide) hdoc
  rw [Padding.isMarked_doc] at hstatic
  exact ⟨m, hm, hstatic, hnodup.mpr (.inr (.inr (by decide)))⟩

/-- The static method whose first parameter has the name of the receiver is declared with two
parameters of that name. -/
theorem padSelf_declares_self_twice :
    (Padding.entry "padSelf").entry.reflected Padding.site.world (Reach.of Padding.site.world)
        Padding.site.state = .ok [{ name := "self" }, { name := "width" }] ∧
      ∃ m, (Padding.entry "padSelf").Declares Padding.site.world Padding.site.state m ∧
        m.parameters.names = ["self", "self", "width"] ∧
        ParameterList.text (labels Padding.site.world (Reach.of Padding.site.world)
          Padding.site.state) m.parameters = .ok "self, self, width".toList := by
  have hany : ((Padding.entry "padSelf").reflect Padding.site.world (Reach.of Padding.site.world)
      Padding.site.state).parametersOrAny = .ok [{ name := "self" }, { name := "width" }] := rfl
  have hdoc : ((Padding.entry "padSelf").reflect Padding.site.world (Reach.of Padding.site.world)
      Padding.site.state).docstring = .ok (shownDocumentation (.str "@instantiated")) := rfl
  refine ⟨rfl, _, Reflection.method?_eq_ok.mpr ⟨_, _, hany, hdoc, rfl⟩, ?_, ?_⟩ <;>
    rw [Padding.isMarked_doc] <;> rfl

end MacroStubs
