import MacroStubs.Proofs.Outcome
import MacroStubs.World.Signature

/-! # Nesting of signatures

Parameters that are told within a bound on nesting are told alike within a greater one. A bound
callable tells those of its function without the one that the object reaches.
-/

namespace MacroStubs.Signature

variable {w : World} {r : Reach} {σ : State}

theorem complain_ne_ok {α : Type} {f : String → Failure} {v : Value} {a : α} :
    complain w r σ f v ≠ .ok a := by
  intro h
  obtain ⟨text, -, h⟩ := bind_eq_ok.mp h
  cases h

/-- A signature of its own is asked for first, and only a null counts as none. -/
theorem givesNoMore_of_signature {α : Type} {e e' : Except Failure α} {found : Option Value}
    {f : Value → Except Failure PUnit.{1}} (h : GivesNoMore e e') :
    GivesNoMore
      (match found with
        | some .null => e
        | none => e
        | some other => do let _ ← f other; e)
      (match found with
        | some .null => e'
        | none => e'
        | some other => do let _ ← f other; e') := by
  split
  · exact h
  · exact h
  · exact .of_bind fun _ => h

theorem givesNoMore_ofUnwrapped {next next' : Value → Except Failure ParameterList}
    (hn : ∀ v, GivesNoMore (next v) (next' v)) (v : Value) :
    GivesNoMore (ofUnwrapped w r σ next v) (ofUnwrapped w r σ next' v) := by
  unfold ofUnwrapped
  refine .of_bind fun found => ?_
  split
  · exact .refl _
  · dsimp only
    apply givesNoMore_of_signature
    refine .of_bind fun _ => .of_bind fun isBuiltin => ?_
    split
    · exact .refl _
    split
    · exact .bind (hn _) fun _ => .refl _
    · refine .of_bind fun maker => ?_
      split
      · exact .bind (hn _) fun _ => .refl _
      · exact .refl _
    · refine .of_bind fun call => ?_
      split
      · exact .refl _
      · rename_i f
        intro ps hps
        cases hf : next f with
        | ok qs =>
          rw [hf] at hps
          rw [hn f qs hf]
          exact hps
        | error failure =>
          rw [hf] at hps
          dsimp only at hps
          split at hps
          · exact absurd hps complain_ne_ok
          · cases hps

theorem givesNoMore_within_succ (n : Nat) (v : Value) :
    GivesNoMore (within w r σ n v) (within w r σ (n + 1) v) := by
  induction n generalizing v with
  | zero =>
    intro ps h
    cases h
  | succ n ih =>
    unfold within
    dsimp only
    split
    · intro ps h
      obtain ⟨_, hc, -⟩ := bind_eq_ok.mp h
      exact absurd hc complain_ne_ok
    · split
      · exact .bind (ih _) fun _ => .refl _
      · refine .of_bind fun inner => ?_
        split
        · exact ih _
        · exact givesNoMore_ofUnwrapped ih _

/-- What is bound tells the parameters of its function without the first positional one. -/
theorem within_bound {n : Nat} {id : Option String} {inner self : Value} {ps : ParameterList}
    (h : within w r σ n (.bound id inner self) = .ok ps) :
    ∃ qs, within w r σ n inner = .ok qs ∧ dropFirst qs = .ok ps := by
  cases n with
  | zero => cases h
  | succ n =>
    rw [within] at h
    dsimp only at h
    split at h
    · obtain ⟨_, hc, -⟩ := bind_eq_ok.mp h
      exact absurd hc complain_ne_ok
    · obtain ⟨qs, hq, hd⟩ := bind_eq_ok.mp h
      exact ⟨qs, givesNoMore_within_succ n inner qs hq, hd⟩

theorem signature_bound {id : Option String} {inner self : Value} {ps : ParameterList}
    (h : signature w r σ (.bound id inner self) = .ok ps) :
    ∃ qs, signature w r σ inner = .ok qs ∧ dropFirst qs = .ok ps := within_bound h

end MacroStubs.Signature
