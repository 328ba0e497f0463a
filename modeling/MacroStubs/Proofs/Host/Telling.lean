import MacroStubs.Generator
import MacroStubs.Proofs.Host.Calling
import MacroStubs.Proofs.Stub.Completion

/-! # Declarations without a host

What macros tell of themselves, and so the declarations that are written for them, do not depend on the
host.
-/

namespace MacroStubs

variable {σ : State} {host : Host} {w : World} {r : Reach}

namespace Signature

theorem complain_host {α : Type} (f : String → Failure) (v : Value) :
    (complain w r.hostless { σ with host } f v : Except Failure α) =
      complain w r.hostless σ f v := by
  simp only [complain, printedText_host]

theorem unwrapped_host (first : Value) (n : Nat) (seen : List Value) (v : Value) :
    unwrapped w r.hostless { σ with host } first n seen v =
      unwrapped w r.hostless σ first n seen v := by
  induction n generalizing seen v with
  | zero => exact complain_host _ _
  | succ n ih =>
    simp only [unwrapped, ih, complain_host]
    rfl

theorem told?_host (v : Value) :
    told? w r.hostless { σ with host } v = told? w r.hostless σ v := by
  simp only [told?, ofText, complain_host]
  rfl

theorem isBuiltin_host (v : Value) :
    isBuiltin r.hostless { σ with host } v = isBuiltin r.hostless σ v := by
  simp only [isBuiltin, claimsToBe, Descriptor.special?_host]
  rfl

theorem inherited?_host (classes : List ClassId) :
    inherited? w r.hostless { σ with host } classes = inherited? w r.hostless σ classes := by
  induction classes with
  | nil => rfl
  | cons c rest ih => simp only [inherited?, told?_host, ih]

theorem ofPlainClass_host (c : ClassId) :
    ofPlainClass w r.hostless { σ with host } c = ofPlainClass w r.hostless σ c := by
  simp only [ofPlainClass, inherited?_host, complain_host]
  rfl

theorem ofUnwrapped_host (next : Value → Except Failure ParameterList) (v : Value) :
    ofUnwrapped w r.hostless { σ with host } next v = ofUnwrapped w r.hostless σ next v := by
  simp only [ofUnwrapped, told?_host, isBuiltin_host, ofPlainClass_host, complain_host]
  rfl

theorem within_host (n : Nat) :
    within w r.hostless { σ with host } n = within w r.hostless σ n := by
  induction n with
  | zero => rfl
  | succ n ih =>
    funext v
    simp only [within, complain_host, unwrapped_host, ofUnwrapped_host, ih]
    rfl

end Signature

theorem Entry.reflect_host (e : Entry) :
    e.reflect w r.hostless { σ with host } = e.reflect w r.hostless σ := by
  have hs (v : Value) : signature w r.hostless { σ with host } v = signature w r.hostless σ v :=
    congrFun (Signature.within_host _) v
  have hp : e.entry.parameters w r.hostless { σ with host } =
      e.entry.parameters w r.hostless σ := by
    cases e.entry with
    | callable handle => exact hs handle
    | method owner name =>
      simp only [Macro.parameters, hs]
      rfl
  have hd : e.entry.docstring r.hostless { σ with host } = e.entry.docstring r.hostless σ := by
    cases e.entry <;> rfl
  rw [reflect, reflect, hp, hd]

/-- What is written of the macros of a class does not depend on the host. -/
theorem ClassMacros.reflect_withHost (c : ClassMacros) :
    c.reflect w (Reach.of w) { σ with host } = c.reflect w (Reach.of w) σ := by
  rw [← Reach.hostless_of]
  simp only [reflect, labels_host, Entry.reflect_host]

theorem labels_withHost :
    labels w (Reach.of w) { σ with host } = labels w (Reach.of w) σ := by
  rw [← Reach.hostless_of]
  exact labels_host

theorem ClassMacros.write_withHost (found : List ClassMacros) :
    write w { σ with host } found = write w σ found := by
  simp only [write, labels_withHost, reflect_withHost]

/-- Writing the stub changes nothing but the records of the host. -/
theorem Generator.emit_run (found : List ClassMacros) :
    (emit w (Reach.of w) found).run σ =
      (.ok ((ClassMacros.write w σ found).1, (ClassMacros.write w σ found).2.text),
        { σ with host := σ.host.logAll (ClassMacros.write w σ found).2.notes }) := rfl

end MacroStubs
