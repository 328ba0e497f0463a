import MacroStubs.Proofs.Host.Reading

/-! # Writing without a host

How attributes, bases and registries are written does not depend on the host, and leaves it as it is
unless a function of the world has its say.
-/

namespace MacroStubs

open Run (IsBlind)

variable {σ : State} {host : Host} {w : World} {r : Reach}

namespace Layout

theorem settle_host (n : Nat) :
    settle n { σ with host } = (settle n σ).map fun τ => { τ with host } := by
  induction n generalizing σ with
  | zero => rfl
  | succ n ih =>
    have hrelined : relined { σ with host } = relined σ := rfl
    rw [settle, settle, hrelined]
    cases relined σ with
    | none => rfl
    | some classes => exact ih (σ := { σ with classes })

theorem root_host (n : Nat) (c : ClassId) : root { σ with host } n c = root σ n c := by
  induction n generalizing c with
  | zero => rfl
  | succ n ih =>
    simp only [root, ih]
    rfl

theorem fault?_host (field : String) (new old : ClassId) :
    fault? { σ with host } field new old = fault? σ field new old := by
  simp only [fault?, root_host]
  rfl

/-- Other bases are given to a class in the same way whatever the host is. -/
theorem withBases_host (id : String) (bases : List ClassId) :
    withBases { σ with host } id bases =
      (withBases σ id bases).map fun τ => { τ with host } := by
  have hcycle : (bases.any fun b => (State.lineage { σ with host } b).contains (.defined id)) =
    bases.any fun b => (σ.lineage b).contains (.defined id) := rfl
  have hbest : bestBase? { σ with host } bases = bestBase? σ bases := rfl
  have hbase : baseOf { σ with host } (.defined id) = baseOf σ (.defined id) := rfl
  have hsettle (n : Nat) (classes : Table String ClassInfo) :
      settle n { σ with classes, host } =
        (settle n { σ with classes }).map fun τ => { τ with host } :=
    @settle_host { σ with classes } host n
  unfold withBases
  simp only [hcycle, hbest, hbase, fault?_host, hsettle]
  split
  · rfl
  · split
    · rfl
    · split
      · rfl
      · rfl
      · cases settle _ _ <;> rfl

end Layout

namespace Write

theorem isSilent_changeBases (id : String) (new : Value) : (changeBases id new).IsSilent := by
  intro σ host
  unfold changeBases
  rw [Run.get_bind, Run.get_bind]
  split
  · rfl
  · split
    · rfl
    · simp only [Layout.withBases_host]
      cases Layout.withBases σ id _ <;> rfl
  · rfl

theorem isSilent_onClass (c : ClassId) (name : String) (new : Value) :
    (onClass c name new).IsSilent := by
  intro σ host
  unfold onClass
  rw [Run.get_bind, Run.get_bind]
  cases c with
  | builtin owner => rfl
  | defined id =>
    dsimp only
    split <;> first | rfl | exact isSilent_changeBases id _ σ host

theorem isSilent_changeClass (v new : Value) : (changeClass v new).IsSilent := by
  intro σ host
  have hclass : State.classOf { σ with host } v = σ.classOf v := rfl
  unfold changeClass
  rw [Run.get_bind, Run.get_bind]
  simp only [hclass, Layout.fault?_host]
  split
  · split
    · split <;> rfl
    · rfl
  · rfl

theorem isSilent_replaceSpace (id : Option String) (new : Value) : (replaceSpace id new).IsSilent := by
  intro σ host
  unfold replaceSpace
  split
  · split <;> rfl
  · rfl

theorem isSilent_onFunction (f : Value) (name : String) (new : Value) :
    (onFunction f name new).IsSilent := by
  intro σ host
  unfold onFunction
  split
  · exact isSilent_replaceSpace _ _ σ host
  · split
    · rfl
    · split
      · rfl
      · split <;> rfl

theorem isSilent_onComputed (v : Value) (owner : ClassId) (name : String) (new : Value) :
    (onComputed v owner name new).IsSilent := by
  intro σ host
  rw [onComputed.eq_def]
  rw [Run.get_bind, Run.get_bind]
  dsimp only
  split <;> first
    | rfl
    | exact isSilent_changeClass _ _ σ host
    | exact isSilent_replaceSpace _ _ σ host
    | exact isSilent_onClass _ _ _ σ host
    | exact isSilent_onFunction _ _ _ σ host
    | skip
  split <;> rfl

theorem isSilent_own (v : Value) (name : String) (new : Value) : (own v name new).IsSilent := by
  intro σ host
  unfold own
  rw [Run.get_bind, Run.get_bind]
  split
  · have hset (module : String) : State.setModuleAttribute { σ with host } module name new =
        { σ.setModuleAttribute module name new with host } := by
      simp only [State.setModuleAttribute]
      split <;> rfl
    rw [hset]
    rfl
  · rfl
  · rfl
  · split
    · split <;> rfl
    · have hread : State.inLineage { σ with host } (State.classOf { σ with host } v) name =
        σ.inLineage (σ.classOf v) name := rfl
      rw [hread]
      split <;> rfl

end Write

namespace MemberCall

theorem isSilent_remove (v : Value) (name : String) : (remove v name).IsSilent := by
  intro σ host
  unfold remove
  rw [Run.get_bind, Run.get_bind]
  dsimp only
  split
  · have hspace (id : String) : State.space { σ with host } id = σ.space id := rfl
    simp only [hspace]
    split <;> rfl
  · rfl

end MemberCall

/-- A property of the steps that read and fail, print, call through a reach and change attributes, if the
host has no say in what they read, and of what is made of such steps. -/
structure Reach.Closed (r : Reach) (P : (α : Type) → Run α → Prop) : Prop where
  pure : ∀ {α : Type} (a : α), P α (Pure.pure a)
  throw : ∀ {α : Type} (failure : Failure), P α (MonadExcept.throw failure)
  read : ∀ {α : Type} {g : State → Except Failure α}, (∀ σ host, g { σ with host } = g σ) →
    P α (Run.read g)
  bind : ∀ {α β : Type} {x : Run α} {f : α → Run β}, P α x → (∀ a, P β (f a)) → P β (x >>= f)
  bind_get : ∀ {β : Type} {f : State → Run β}, (∀ σ host, f { σ with host } = f σ) →
    (∀ σ, P β (f σ)) → P β (MonadState.get >>= f)
  print : ∀ text, P Unit (Run.onHost (·.printing text))
  call : ∀ f arguments keywords, P Value (r.call f arguments keywords)
  computed : ∀ v owner name new, P Unit (Write.onComputed v owner name new)
  own : ∀ v name new, P Unit (Write.own v name new)
  remove : ∀ v name, P Unit (MemberCall.remove v name)
  keep : ∀ c name v, P Unit (modify (·.putInClass c name v))

variable {P : (α : Type) → Run α → Prop}

namespace Reach.Closed

variable {α β : Type} {x : Run α}

theorem ofExcept (hP : r.Closed P) (e : Except Failure α) : P α (Run.ofExcept e) :=
  hP.read fun _ _ => rfl

theorem map (hP : r.Closed P) (hx : P α x) (g : α → β) : P β (g <$> x) := by
  rw [map_eq_pure_bind]
  exact hP.bind hx fun a => hP.pure _

theorem mapM {γ : Type} {f : γ → Run β} (hP : r.Closed P) (hf : ∀ a, P β (f a)) (as : List γ) :
    P _ (as.mapM f) := by
  induction as with
  | nil => exact hP.pure []
  | cons a as ih =>
    rw [List.mapM_cons]
    exact hP.bind (hf a) fun _ => hP.bind ih fun _ => hP.pure _

theorem invoke (hP : r.hostless.Closed P) (v : Value) (name : String) (arguments : List Value)
    (keywords : Table String Value) : P _ (r.hostless.invoke v name arguments keywords) :=
  hP.bind (hP.read fun _ _ => rfl) fun _ => hP.call _ _ _

end Reach.Closed

/-- Calls through a reach that is shown an empty host are blind, and so is what is made of them. -/
theorem Reach.closed_isBlind : r.hostless.Closed fun _ x => x.IsBlind where
  pure := .pure
  throw := .throw
  read := .read
  bind := .bind
  bind_get := .bind_get
  print := .print
  call _ _ _ := .hostless _
  computed v owner name new := .of_silent (Write.isSilent_onComputed v owner name new)
  own v name new := .of_silent (Write.isSilent_own v name new)
  remove v name := .of_silent (MemberCall.isSilent_remove v name)
  keep c _ _ := .modify fun _ _ => by cases c <;> rfl

namespace Registry

theorem closed_register (hP : r.Closed P) (c : ClassId) (name entry : Value) :
    P _ (register c name entry) :=
  hP.bind (hP.read fun _ _ => rfl) fun _ => hP.bind_get (fun _ _ => rfl) fun _ =>
    hP.bind (hP.ofExcept _) fun _ => hP.keep _ _ _

theorem closed_flush (hP : r.Closed P) (c : ClassId) : P _ (flush c) :=
  hP.bind (hP.read fun _ _ => rfl) fun _ => hP.bind_get (fun _ _ => rfl) fun _ =>
    hP.bind (hP.ofExcept _) fun _ => hP.keep _ _ _

theorem closed_adoptAll {holds : Value → Run Bool} {put : Value → Value → Run Unit}
    (hP : r.Closed P) (hh : ∀ name, P _ (holds name)) (hp : ∀ name member, P _ (put name member))
    (replace : Bool) (members : List (String × Value)) :
    P _ (adoptAll holds put replace members) := by
  induction members with
  | nil => exact hP.pure _
  | cons e rest ih =>
    obtain ⟨name, member⟩ := e
    have hrest (wanted : Bool) : P _ (do
        if wanted then put (.str name) member
        adoptAll holds put replace rest : Run Unit) := by
      cases wanted with
      | true => exact hP.bind (hp _ _) fun _ => ih
      | false => exact ih
    rw [adoptAll]
    split
    · exact ih
    · split
      · exact hrest true
      · exact hP.bind (hh _) fun held => hrest _

end Registry

namespace Write

variable (hP : r.hostless.Closed P)
include hP

theorem closed_through (raw v new : Value) : P _ (through r.hostless raw v new) := by
  unfold through
  refine hP.bind_get (fun _ _ => rfl) fun σ => ?_
  split
  · exact hP.throw _
  · exact hP.computed _ _ _ _
  · split
    · exact hP.bind (hP.call _ _ _) fun _ => hP.pure _
    · exact hP.throw _

theorem closed_generic (v : Value) (name : String) (new : Value) :
    P _ (generic r.hostless v name new) := by
  unfold generic
  refine hP.bind_get (fun _ _ => rfl) fun σ => ?_
  dsimp only
  split
  · exact hP.throw _
  · split
    · exact closed_through hP _ _ _
    · exact hP.own _ _ _
  · exact hP.own _ _ _

theorem closed_write (v : Value) (name : String) (new : Value) :
    P _ (write r.hostless v name new) := by
  unfold write
  refine hP.bind_get (fun σ host => ?_) fun σ => ?_
  · simp only [Descriptor.special?_host]
    rfl
  · split
    · refine hP.bind (hP.ofExcept _) fun writer => ?_
      split
      · exact hP.bind (hP.call _ _ _) fun _ => hP.pure _
      · exact hP.pure _
    · exact closed_generic hP _ _ _

end Write
end MacroStubs
