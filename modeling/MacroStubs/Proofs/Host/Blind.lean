import MacroStubs.Proofs.Outcome
import MacroStubs.World.Reach

/-! # Blind steps

A step is blind to the host if it does the same whatever the host is, and at most prints to it. Reading
and calling are considered through a `Reach` that is blind by its making: `Reach.hostless` shows an
empty host to whatever is read or called, and passes on what is printed.
-/

namespace MacroStubs

variable {α β : Type} {σ : State} {host : Host} {r : Reach}

/-- A host with something printed to its output. -/
def Host.printing (text : String) (h : Host) : Host := { h with stdout := h.stdout ++ text }

/-- A step that does the same whatever the host is, and does nothing to it but print. -/
def Run.IsBlind (x : Run α) : Prop :=
  ∀ σ, ∃ printed, ∀ host, x.run { σ with host } =
    ((x.run σ).1, { (x.run σ).2 with host := host.printing printed })

/-- A step that does the same whatever the host is, and does nothing to it. -/
def Run.IsSilent (x : Run α) : Prop :=
  ∀ σ host, x.run { σ with host } = ((x.run σ).1, { (x.run σ).2 with host })

/-- A step that is shown an empty host. -/
def Run.hostless (x : Run α) : Run α := fun σ =>
  let (result, τ) := x.run { σ with host := default }
  (result, { τ with host := σ.host.printing τ.host.stdout })

namespace Run.IsBlind

variable {x : Run α} {f : α → Run β}

/-- What a blind step does, it does without a host. -/
theorem hostless_eq (h : x.IsBlind) : x.hostless = x := by
  funext σ
  obtain ⟨printed, h⟩ := h σ
  have hrun : x.hostless σ = ((x.run { σ with host := default }).1,
    { (x.run { σ with host := default }).2 with
      host := σ.host.printing (x.run { σ with host := default }).2.host.stdout }) := rfl
  have hempty : ((default : Host).printing printed).stdout = printed := String.empty_append
  rw [hrun, h default, hempty]
  exact (h σ.host).symm

theorem hostless (x : Run α) : x.hostless.IsBlind := fun σ =>
  ⟨(x.run { σ with host := default }).2.host.stdout, fun _ => rfl⟩

theorem of_silent (h : x.IsSilent) : x.IsBlind := fun σ => ⟨"", fun host => by
  rw [h, Host.printing, String.append_empty]⟩

theorem pure (a : α) : (Pure.pure a : Run α).IsBlind := of_silent fun _ _ => rfl

theorem throw (failure : Failure) : (throw failure : Run α).IsBlind := of_silent fun _ _ => rfl

theorem read {g : State → Except Failure α} (h : ∀ σ host, g { σ with host } = g σ) :
    (Run.read g).IsBlind := of_silent fun σ host => by
  change (g { σ with host }, _) = _
  rw [h]
  rfl

theorem modify {g : State → State} (h : ∀ σ host, g { σ with host } = { g σ with host }) :
    (modify g : Run Unit).IsBlind := of_silent fun σ host => by
  change (_, g { σ with host }) = _
  rw [h]
  rfl

theorem print (text : String) : (Run.onHost (·.printing text)).IsBlind := fun _ =>
  ⟨text, fun _ => rfl⟩

theorem bind (hx : x.IsBlind) (hf : ∀ a, (f a).IsBlind) : (x >>= f).IsBlind := by
  intro σ
  obtain ⟨printed, hx⟩ := hx σ
  rw [Run.run_bind]
  cases hrun : x.run σ with
  | mk result τ =>
  rw [hrun] at hx
  cases result with
  | error failure => exact ⟨printed, fun host => by rw [Run.run_bind, hx]⟩
  | ok a =>
    obtain ⟨later, hf⟩ := hf a τ
    refine ⟨printed ++ later, fun host => ?_⟩
    rw [Run.run_bind, hx]
    dsimp only
    rw [hf]
    simp [Host.printing, String.append_assoc]

/-- What is done with the state at hand may not tell which host it has. -/
theorem bind_get {f : State → Run β} (hf : ∀ σ host, f { σ with host } = f σ)
    (hb : ∀ σ, (f σ).IsBlind) : ((MonadState.get : Run State) >>= f).IsBlind := by
  intro σ
  obtain ⟨printed, h⟩ := hb σ σ
  refine ⟨printed, fun host => ?_⟩
  rw [Run.get_bind, Run.get_bind, hf]
  exact h host

end Run.IsBlind

namespace Reach

/-- A reach that is shown an empty host. -/
def hostless (r : Reach) : Reach where
  read σ := r.read { σ with host := default }
  call f arguments keywords := (r.call f arguments keywords).hostless

/-- A reach that does not depend on the host is the one that is shown an empty host. -/
theorem hostless_eq (hr : ∀ σ host v name, r.read { σ with host } v name = r.read σ v name)
    (hc : ∀ f arguments keywords, (r.call f arguments keywords).IsBlind) : r.hostless = r := by
  have hread : r.hostless.read = r.read := by
    funext σ v name
    exact hr σ default v name
  have hcall : r.hostless.call = r.call := by
    funext f arguments keywords
    exact (hc f arguments keywords).hostless_eq
  exact congr (congrArg Reach.mk hread) hcall

end Reach
end MacroStubs
