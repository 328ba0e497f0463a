import MacroStubs.Proofs.Host.Calling
import MacroStubs.Proofs.Import.Keeping

/-! # Calls and imports

A call changes classes, objects and attributes, those of modules included, and prints. It imports nothing,
so conditions on imports stand. What is called on the way keeps the condition by induction on how deep calls
are nested.
-/

namespace MacroStubs

variable {A : State → Prop} {w : World} {r : Reach}

namespace Write

variable (hA : State.OnImports A)
include hA

theorem keeps_replaceSpace (id : Option String) (new : Value) : (replaceSpace id new).Keeps A := by
  unfold replaceSpace
  split
  · split
    · exact .modify fun σ hσ => hA hσ (.of_modules rfl rfl rfl)
    · exact .pure _
  · exact .bind_get fun _ _ => .throw _

theorem keeps_onFunction (f : Value) (name : String) (new : Value) : (onFunction f name new).Keeps A := by
  unfold onFunction
  split
  · exact keeps_replaceSpace hA _ _
  · split
    · exact .throw _
    · split
      · exact .throw _
      · split
        · exact .modify fun σ hσ => hA hσ (.of_modules rfl rfl rfl)
        · exact .pure _

theorem keeps_changeBases (id : String) (new : Value) : (changeBases id new).Keeps A := by
  unfold changeBases
  refine .bind_get fun σ hσ => ?_
  dsimp only
  split
  · exact .throw _
  · split
    · exact .throw _
    · exact .bind_ofExcept fun τ hτ => .set (hA hσ (.withBases hτ))
  · exact .throw _

theorem keeps_onClass (c : ClassId) (name : String) (new : Value) : (onClass c name new).Keeps A := by
  unfold onClass
  refine .bind_get fun σ hσ => ?_
  cases c with
  | builtin owner => exact .throw _
  | defined id =>
    dsimp only
    split <;> first
      | exact .throw _
      | exact keeps_changeBases hA id _
      | exact .set (hA hσ (.of_modules rfl rfl rfl))

theorem keeps_changeClass (v new : Value) : (changeClass v new).Keeps A := by
  unfold changeClass
  refine .bind_get fun σ hσ => ?_
  dsimp only
  split
  · split
    · split
      · exact .throw _
      · exact .set (hA hσ (.of_modules rfl rfl rfl))
      · exact .pure _
    · exact .throw _
  · exact .throw _

theorem keeps_onComputed (v : Value) (owner : ClassId) (name : String) (new : Value) :
    (onComputed v owner name new).Keeps A := by
  rw [onComputed.eq_def]
  refine .bind_get fun σ hσ => ?_
  split <;> first
    | exact keeps_changeClass hA _ _
    | exact keeps_replaceSpace hA _ _
    | exact keeps_onClass hA _ _ _
    | exact keeps_onFunction hA _ _ _
    | exact .set (hA hσ (.of_modules rfl rfl rfl))
    | exact .pure _
    | skip
  split <;> exact .throw _

theorem keeps_own (v : Value) (name : String) (new : Value) : (own v name new).Keeps A := by
  unfold own
  refine .bind_get fun σ hσ => ?_
  split
  · exact .set (hA hσ (.setModuleAttribute _ _ _ _))
  · exact .set (hA hσ (.of_modules rfl rfl rfl))
  · exact .throw _
  · split
    · split
      · exact .set (hA hσ (.of_modules rfl rfl rfl))
      · exact .pure _
    · split <;> exact .throw _

end Write

theorem MemberCall.keeps_remove (hA : State.OnImports A) (v : Value) (name : String) :
    (remove v name).Keeps A := by
  unfold remove
  refine .bind_get fun σ hσ => ?_
  dsimp only
  split
  · split
    · exact .set (hA hσ (.of_modules rfl rfl rfl))
    · exact .throw _
  · exact .throw _

namespace Reach

variable (hA : State.OnImports A)
include hA

/-- A condition on imports is kept by what is made of calls if the calls keep it. -/
theorem closed_keeps (hcall : ∀ f arguments keywords, (r.call f arguments keywords).Keeps A) :
    r.Closed fun _ x => x.Keeps A where
  pure := .pure
  throw := .throw
  read _ := .read _
  bind := .bind
  bind_get _ hf := .bind_get fun σ _ => hf σ
  print _ := hA.onHost _
  call := hcall
  computed := Write.keeps_onComputed hA
  own := Write.keeps_own hA
  remove := MemberCall.keeps_remove hA
  keep _ _ _ := .modify fun _ hσ => hA hσ (.putInClass _ _ _ _)

theorem closed_within (w : World) (n : Nat) : (within w n).Closed fun _ x => x.Keeps A := by
  induction n with
  | zero => exact closed_keeps hA fun _ _ _ => .throw _
  | succ n ih =>
    rw [← hostless_within n] at ih
    rw [within, ← hostless_within n]
    exact closed_keeps hA fun _ _ _ => Call.closed_dispatch ih

/-- Calls keep conditions on imports, and so does what is made of them. -/
theorem closed_of (w : World) : (Reach.of w).hostless.Closed fun _ x => x.Keeps A := by
  rw [hostless_of]
  exact closed_within hA w _

end Reach
end MacroStubs
