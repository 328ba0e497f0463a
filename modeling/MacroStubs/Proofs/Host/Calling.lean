import MacroStubs.Proofs.Host.Members

/-! # Calling without a host

A call is made of steps that read and fail, print, call and change attributes, in all of which the host has
no say. What a call does to a state does not depend on the host, and a call does nothing to the host but
print. So no file, no record and no reading of a clock has a say in what attributes mean.
-/

namespace MacroStubs

variable {σ : State} {host : Host} {w : World} {r : Reach} {P : (α : Type) → Run α → Prop}

namespace Registration

open BuiltinCall

variable {v name entry : Value} (hP : r.hostless.Closed P)
include hP

theorem closed_placeOf : P _ (placeOf r.hostless v) := by
  unfold placeOf
  refine hP.bind (hP.read fun _ _ => rfl) fun f => ?_
  split
  · exact hP.pure _
  · exact hP.map (hP.call _ _ _) _

theorem closed_registry : P _ (registry r.hostless v) := by
  unfold registry
  refine hP.bind (closed_placeOf hP) fun place => ?_
  split
  · exact hP.read fun _ _ => rfl
  · exact hP.pure _

theorem closed_register : P _ (register r.hostless v name entry) := by
  unfold register
  refine hP.bind (closed_placeOf hP) fun place => ?_
  split
  · exact Registry.closed_register hP _ _ _
  · exact hP.bind_get (fun _ _ => rfl) fun _ => hP.bind (hP.ofExcept _) fun _ => hP.pure _

theorem closed_flush : P _ (flush r.hostless v) := by
  unfold flush
  refine hP.bind (closed_placeOf hP) fun place => ?_
  split
  · exact Registry.closed_flush hP _
  · exact hP.bind_get (fun _ _ => rfl) fun _ => hP.bind (hP.ofExcept _) fun _ => hP.pure _

theorem closed_holds : P _ (holds r.hostless v name) := by
  unfold holds
  split
  · exact hP.bind (hP.read fun _ _ => by rw [Attribute.sought_host]) fun _ => hP.pure _
  · exact hP.bind (hP.invoke _ _ _ _) fun _ => hP.pure _

theorem closed_adopt (source : Value) (replace : Bool) :
    P _ (adopt r.hostless v source replace) := by
  refine hP.bind (hP.read fun _ _ => by rw [Members.routines_host]) fun members => ?_
  exact Registry.closed_adoptAll hP (fun _ => hP.bind (hP.invoke _ _ _ _) fun _ => closed_truth hP)
    (fun _ _ => hP.bind (hP.invoke _ _ _ _) fun _ => hP.pure _) _ _

theorem closed_find : P _ (find r.hostless v name) := by
  unfold find
  split
  · exact hP.bind (hP.read fun _ _ => by rw [Registry.find?_host]) fun _ => hP.pure _
  · exact hP.bind (hP.read fun _ _ => rfl) fun _ => hP.bind (closed_items hP) fun _ => hP.pure _

theorem closed_ofClass : P _ (ofClass r.hostless v) := by
  unfold ofClass
  split
  · exact hP.read fun _ _ => rfl
  · refine hP.bind (hP.read fun _ _ => rfl) fun found => ?_
    split
    · split
      · exact hP.pure _
      · exact hP.throw _
    · exact hP.throw _

theorem closed_unknown (seeker : Value) (c : ClassId) :
    P _ (unknown r.hostless seeker c name) := by
  unfold unknown
  split
  · refine hP.bind (hP.read fun _ _ => by rw [Attribute.viaMacro_host]) fun step => ?_
    split
    · exact hP.pure _
    · exact hP.read fun _ _ => rfl
  · exact hP.bind_get (fun _ _ => rfl) fun _ => hP.throw _

theorem closed_subclassed (keywords : Value) : P _ (subclassed v keywords) := by
  unfold subclassed
  split
  · exact hP.keep _ _ _
  · exact hP.bind_get (fun _ _ => rfl) fun _ => hP.throw _
  · exact hP.bind_get (fun _ _ => rfl) fun _ => hP.throw _

theorem closed_perform (n : Native) (values : List Value) :
    P _ (perform r.hostless n values) := by
  rw [perform.eq_def]
  split
  · exact closed_ofClass hP
  · exact closed_find hP
  · exact hP.bind (closed_register hP) fun _ => hP.pure _
  · exact hP.bind (Registry.closed_register hP _ _ _) fun _ => hP.pure _
  · exact hP.bind (closed_truth hP) fun _ => hP.bind (closed_adopt hP _ _) fun _ => hP.pure _
  · exact hP.bind (closed_holds hP) fun _ => hP.pure _
  · exact hP.bind (closed_flush hP) fun _ => hP.pure _
  · exact hP.bind (closed_subclassed hP _) fun _ => hP.pure _
  · exact hP.bind_get (fun _ _ => rfl) fun _ => closed_unknown hP _ _
  · split
    · exact closed_unknown hP _ _
    · exact hP.bind (hP.read fun _ _ => rfl) fun _ => hP.bind_get (fun _ _ => rfl) fun _ => hP.throw _
  · exact hP.pure _

end Registration

namespace Call

variable {v : Value} {arguments : List Value} {keywords : Table String Value}
variable (hP : r.hostless.Closed P)
include hP

theorem closed_valuesOf : P _ (valuesOf v arguments keywords) := by
  unfold valuesOf
  refine hP.bind_get (fun _ _ => rfl) fun σ => ?_
  split
  · exact hP.pure _
  · exact hP.throw _

theorem closed_made (c : ClassId) : P _ (made w r.hostless c arguments keywords) := by
  unfold made
  refine hP.bind_get (fun σ host => ?_) fun σ => ?_
  · simp only [Descriptor.get_host]
    rfl
  · split
    · exact MemberCall.closed_onObject hP _ _
    · exact hP.bind (hP.ofExcept _) fun _ => hP.call _ _ _
    · exact MemberCall.closed_blank hP _ _

theorem closed_initialise : P _ (initialise w r.hostless v arguments keywords) := by
  unfold initialise
  refine hP.bind_get (fun σ host => ?_) fun σ => ?_
  · simp only [Descriptor.get_host]
    rfl
  · dsimp only
    split
    · split
      · exact hP.throw _
      · exact hP.pure _
    · split
      · exact hP.bind (BuiltinCall.closed_convert? hP _) fun _ => hP.pure _
      · exact hP.pure _
    · exact hP.pure _
    · exact hP.pure _
    · refine hP.bind (hP.ofExcept _) fun f => hP.bind (hP.call _ _ _) fun answer => ?_
      split
      · exact hP.pure _
      · exact hP.bind_get (fun _ _ => rfl) fun _ => hP.throw _

theorem closed_construct (c : ClassId) :
    P _ (construct w r.hostless c arguments keywords) := by
  unfold construct
  refine hP.bind (closed_made hP c) fun v => hP.bind_get (fun _ _ => rfl) fun σ => ?_
  split
  · exact hP.bind (closed_initialise hP) fun _ => hP.pure _
  · exact hP.pure _

theorem closed_ofObject : P _ (ofObject r.hostless v arguments keywords) := by
  unfold ofObject
  refine hP.bind_get (fun σ host => ?_) fun σ => ?_
  · simp only [Descriptor.special?_host]
    rfl
  · refine hP.bind (hP.ofExcept _) fun f => ?_
    split
    · exact hP.call _ _ _
    · exact hP.throw _

/-- A call has a property if the calls have it that it leads to. -/
theorem closed_dispatch : P _ (dispatch w r.hostless v arguments keywords) := by
  rw [dispatch.eq_def]
  split
  · refine hP.bind (closed_valuesOf hP) fun values => ?_
    split
    · exact hP.pure _
    · exact hP.pure _
    · exact hP.throw _
  · exact hP.call _ _ _
  · exact hP.bind (closed_valuesOf hP) fun _ => Registration.closed_perform hP _ _
  · exact BuiltinCall.closed_function hP _
  · exact hP.call _ _ _
  · exact hP.call _ _ _
  · exact hP.call _ _ _
  · exact MemberCall.closed_unbound hP _ _
  · exact MemberCall.closed_onObject hP _ _
  · exact closed_construct hP _
  · exact closed_ofObject hP
  · exact closed_ofObject hP
  · exact hP.bind_get (fun _ _ => rfl) fun _ => hP.throw _

end Call

namespace Reach

/-- Reading and calling never depend on the host. -/
theorem hostless_within (n : Nat) : (within w n).hostless = within w n := by
  induction n with
  | zero => exact hostless_eq (fun _ _ _ _ => rfl) fun _ _ _ => .throw _
  | succ n ih =>
    rw [within, ← ih]
    exact hostless_eq (fun _ _ v name => Attribute.readThrough_host v name)
      fun _ _ _ => Call.closed_dispatch closed_isBlind

theorem hostless_of (w : World) : (Reach.of w).hostless = Reach.of w := hostless_within _

theorem read_withHost (σ : State) (host : Host) :
    (Reach.of w).read { σ with host } = (Reach.of w).read σ := by
  rw [← hostless_of]
  rfl

end Reach
end MacroStubs
