import MacroStubs.Proofs.Literal.Excess
import MacroStubs.Proofs.Stub.Completion

/-! # Defaults that fail

A default whose literal text cannot be asked for ends the stub that would show it; any other one is written
or left out.
-/

namespace MacroStubs

variable {w : World} {σ : State} {f : Failure}

section

variable {labels : Labels}

/-- A default that stands in a declaration if it has a literal text. -/
def Parameter.Shows (p : Parameter Value) (v : Value) : Prop := p.kind.isExtra = false ∧ p.default = some v

namespace Parameter

variable {p : Parameter Value}

theorem text_eq_error : p.text labels = .error f ↔ ∃ v, p.Shows v ∧ v.FailsAsLiteral labels f := by
  cases h : p.kind.isExtra with
  | true =>
    obtain ⟨text, ht⟩ : ∃ text, p.text labels = .ok text := text_of_isExtra h
    rw [ht]
    exact iff_of_false (fun h => by cases h) fun ⟨v, hv, _⟩ => Bool.false_ne_true (hv.1.symm.trans h)
  | false =>
    rw [text_eq_of_not_isExtra h, map_eq_error, defaultText?]
    simp only [Shows, h, true_and]
    cases p.default with
    | none => simp [pure, Except.pure]
    | some v => simp [Value.literal?_eq_error]

end Parameter

namespace ParameterList

/-- A parameter list fails as the first default of it that does. -/
theorem parts_eq_error (star : Bool) {ps : ParameterList} : parts labels star ps = .error f ↔
    ∃ before p after v, ps = before ++ p :: after ∧ (∀ q ∈ before, q.IsWritable labels) ∧
      p.Shows v ∧ v.FailsAsLiteral labels f := by
  induction ps generalizing star with
  | nil => simp [parts, pure, Except.pure]
  | cons p rest ih =>
    rw [parts]
    simp only [bind_eq_error]
    constructor
    · rintro (hp | ⟨text, ht, hrest | ⟨_, -, h⟩⟩)
      · obtain ⟨v, hv, hf⟩ := Parameter.text_eq_error.mp hp
        exact ⟨[], p, rest, v, rfl, List.forall_mem_nil _, hv, hf⟩
      · obtain ⟨before, q, after, v, rfl, hb, hv, hf⟩ := (ih _).mp hrest
        exact ⟨p :: before, q, after, v, rfl,
          List.forall_mem_cons.mpr ⟨Parameter.text_isOk_iff.mp ⟨text, ht⟩, hb⟩, hv, hf⟩
      · cases h
    · rintro ⟨before, q, after, v, hps, hb, hv, hf⟩
      cases before with
      | nil =>
        obtain ⟨rfl, rfl⟩ := List.cons.inj hps
        exact .inl (Parameter.text_eq_error.mpr ⟨v, hv, hf⟩)
      | cons b before =>
        obtain ⟨rfl, rfl⟩ := List.cons.inj hps
        obtain ⟨hp, hb⟩ := List.forall_mem_cons.mp hb
        obtain ⟨text, ht⟩ := Parameter.text_isOk_iff.mpr hp
        exact .inr ⟨text, ht, .inl ((ih _).mpr ⟨before, q, after, v, rfl, hb, hv, hf⟩)⟩

theorem text_eq_error {ps : ParameterList} : text labels ps = .error f ↔
    ∃ before p after v, ps = before ++ p :: after ∧ (∀ q ∈ before, q.IsWritable labels) ∧
      p.Shows v ∧ v.FailsAsLiteral labels f := by
  rw [text, map_eq_error, parts_eq_error]

end ParameterList

end

/-- A default that the declaration of a macro shows if it has a literal text. -/
def Macro.Shows (w : World) (σ : State) (m : Macro) (v : Value) : Prop :=
  ∃ ps, m.parameters w (Reach.of w) σ = .ok ps ∧ ∃ p ∈ ps, p.Shows v

namespace ClassMacros

end ClassMacros

namespace Shop

/-- A function with these parameters. -/
def order (ps : ParameterList) : Value := .function "order" "order" ps .null (.returns .null)

end Shop

end MacroStubs
