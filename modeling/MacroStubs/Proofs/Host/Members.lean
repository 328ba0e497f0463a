import MacroStubs.Proofs.Host.Builtin

/-! # What members are made of

The members of built-in classes read and fail, call, and change attributes, so they have every property of
such steps.
-/

namespace MacroStubs

variable {σ : State} {host : Host} {w : World} {r : Reach} {P : (α : Type) → Run α → Prop}

namespace MemberCall

open BuiltinCall

variable {self v : Value} {arguments : List Value} {keywords : Table String Value}

theorem setting_host : setting w r.hostless { σ with host } = setting w r.hostless σ := by
  simp only [setting, printedText_host]
  rfl

variable (hP : r.hostless.Closed P)
include hP

theorem closed_blank (c : ClassId) (excess : Bool) : P _ (blank c excess) := by
  refine hP.bind_get (fun _ _ => rfl) fun σ => ?_
  split
  · exact hP.throw _
  · exact hP.pure _

theorem closed_generic (name : String) : P _ (generic r.hostless v name) := by
  unfold generic
  refine hP.bind_get (fun σ host => ?_) fun σ => ?_
  · simp only [Attribute.ofClass?_host, Attribute.ofObject?_host]
    rfl
  · split
    · refine hP.bind (hP.ofExcept _) fun found => ?_
      split
      · exact hP.pure _
      · exact hP.throw _
    · refine hP.bind (hP.ofExcept _) fun found => ?_
      split
      · exact hP.pure _
      · exact hP.throw _

theorem closed_namesOf : P _ (namesOf r.hostless v) := by
  unfold namesOf
  refine hP.bind_get (fun _ _ => rfl) fun σ => ?_
  extract_lets rest
  split
  · exact hP.bind (hP.pure _) fun _ => hP.pure _
  · exact hP.bind (hP.ofExcept _) fun _ => hP.bind (hP.pure _) fun _ => hP.pure _

theorem closed_descriptor (object : Value) (cls : Option Value) :
    P _ (descriptor r.hostless v object cls) := by
  unfold descriptor
  refine hP.bind_get (fun σ host => ?_) fun σ => ?_
  · simp only [Descriptor.get_host]
    rfl
  · dsimp only
    split
    · exact hP.throw _
    · exact hP.ofExcept _
    · exact hP.ofExcept _

theorem closed_ofObject (name : String) :
    P _ (ofObject w r.hostless self name arguments keywords) := by
  rw [ofObject.eq_def]
  refine hP.bind_get (fun σ host => ?_) fun σ => ?_
  · simp only [printedText_host, Descriptor.special?_host]
    rfl
  · split <;> first
      | exact hP.pure _
      | exact hP.throw _
      | exact hP.map (hP.ofExcept _) _
      | exact hP.map (closed_asText hP) _
      | exact closed_generic hP _
      | exact hP.bind (Write.closed_generic hP _ _ _) fun _ => hP.pure _
      | exact hP.bind (hP.remove _ _) fun _ => hP.pure _
      | exact closed_namesOf hP
      | skip
    · split
      · exact hP.pure _
      · exact hP.throw _
    · refine hP.bind (hP.ofExcept _) fun test => ?_
      split
      · refine hP.bind (hP.call _ _ _) fun answer => ?_
        split
        · exact hP.pure _
        · exact hP.bind (closed_truth hP) fun _ => hP.pure _
      · exact hP.pure _
    · split <;> exact hP.pure _

theorem closed_ofType (c : ClassId) (name : String) :
    P _ (ofType w r.hostless c name arguments keywords) := by
  rw [ofType.eq_def]
  refine hP.bind_get (fun σ host => ?_) fun σ => ?_
  · simp only [printedText_host]
    rfl
  · split <;> first
      | exact hP.pure _
      | exact hP.throw _
      | exact hP.call _ _ _
      | exact hP.map (hP.ofExcept _) _
      | exact closed_generic hP _
      | exact hP.bind (Write.closed_generic hP _ _ _) fun _ => hP.pure _
      | exact hP.bind (hP.remove _ _) fun _ => hP.pure _
      | exact closed_namesOf hP

theorem closed_placed (owner name : String) :
    P _ (placed owner name self arguments keywords) := by
  unfold placed
  split
  · dsimp only
    split
    · exact hP.pure _
    · exact hP.throw _
  · split
    · exact hP.pure _
    · exact hP.throw _

theorem closed_ofData (owner name : String) :
    P _ (ofData w r.hostless owner name self arguments keywords) := by
  rw [ofData.eq_def]
  refine hP.bind_get (fun σ host => ?_) fun σ => ?_
  · simp only [printedText_host, setting_host]
    rfl
  · extract_lets plain
    clear_value plain
    split <;> first
      | exact hP.pure _
      | exact hP.throw _
      | exact hP.map (hP.ofExcept _) _
      | exact hP.map (closed_asText hP) _
      | exact closed_generic hP _
      | exact hP.bind (closed_convert? hP _) fun _ => hP.pure _
      | skip
    · split
      · exact hP.ofExcept _
      · exact hP.throw _
    · split
      · exact hP.bind (closed_function hP _) fun _ => hP.pure _
      · exact hP.throw _
    · split
      · split
        · exact hP.bind (hP.ofExcept _) fun _ => hP.throw _
        · refine hP.bind (hP.ofExcept _) fun v => ?_
          split <;> exact hP.pure _
        · exact hP.throw _
      · refine hP.bind (closed_placed hP _ _) fun _ => hP.bind (hP.ofExcept _) fun answer => ?_
        split <;> exact hP.pure _

theorem closed_ofCallable (owner name : String) :
    P _ (ofCallable w r.hostless owner name self arguments keywords) := by
  rw [ofCallable.eq_def]
  split <;> first
      | exact hP.pure _
      | exact hP.throw _
      | exact hP.call _ _ _
      | exact closed_descriptor hP _ _
      | exact hP.bind (Write.closed_through hP _ _ _) fun _ => hP.pure _
      | exact hP.bind_get (fun _ _ => rfl) fun _ => hP.throw _
      | exact hP.read fun _ _ => rfl
      | skip
  · exact hP.bind_get (fun σ host => by simp only [printedText_host]) fun _ => hP.map (hP.ofExcept _) _
  · split
    · exact closed_ofObject hP _
    · exact hP.throw _

theorem closed_make (made : String) :
    P _ (make w r.hostless made arguments keywords) := by
  unfold make
  refine hP.bind_get (fun _ _ => rfl) fun σ => ?_
  split
  · split
    · exact hP.throw _
    split
    · exact hP.throw _
    split
    · exact closed_blank hP _ _
    split
    · refine hP.bind (closed_convert? hP _) fun found => ?_
      split
      · exact hP.pure _
      · exact hP.throw _
    · extract_lets rest
      split
      · exact hP.bind (closed_convert? hP _) fun _ => closed_blank hP _ _
      · exact closed_blank hP _ _
  · exact hP.throw _
  · exact hP.throw _

theorem closed_onObject (owner : ClassId) (name : String) :
    P _ (onObject w r.hostless owner name self arguments keywords) := by
  rw [onObject.eq_def]
  split
  · exact closed_make hP _
  · exact closed_ofType hP _ _
  · exact closed_ofObject hP _
  · exact hP.bind (closed_ofData hP _ _) fun _ => closed_blank hP _ _
  · split
    · exact closed_ofCallable hP _ _
    · exact closed_ofData hP _ _
  · exact hP.throw _

theorem closed_unbound (owner : ClassId) (name : String) :
    P _ (unbound w r.hostless owner name arguments keywords) := by
  unfold unbound
  refine hP.bind_get (fun _ _ => rfl) fun σ => ?_
  split
  · exact closed_onObject hP _ _
  · split
    · exact closed_onObject hP _ _
    · exact hP.throw _
  · split
    · exact closed_onObject hP _ _
    · exact hP.throw _
  · exact closed_onObject hP _ _
  · exact hP.throw _
  · exact hP.throw _
  · exact hP.throw _

end MemberCall

end MacroStubs
