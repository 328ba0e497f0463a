import MacroStubs.Proofs.Host.Calling
import MacroStubs.Proofs.Traversal
import MacroStubs.Session

/-! # Traversals of actions

An action calls, writes attributes and imports, and else it reads, fails and reports. So it has every
property of such steps that its calls, its writing and its imports have. Where a stub is written to is left
to the property.
-/

namespace MacroStubs

variable {w : World} {r : Reach} {importModule : String → Run Unit}
variable {P : (α : Type) → Run α → Prop}

theorem Run.Closed.forM {γ : Type} {f : γ → Run Unit} {as : List γ} (hP : Run.Closed P)
    (hf : ∀ a ∈ as, P _ (f a)) : P _ (as.forM f) := by
  induction as with
  | nil => exact hP.pure ()
  | cons a as ih =>
    obtain ⟨ha, hrest⟩ := List.forall_mem_cons.mp hf
    exact hP.bind ha fun _ => ih hrest

theorem Bootstrap.closed_run (hP : Run.Closed P) (hpath : ∀ base, P _ (addPath base))
    (himport : ∀ module, P _ (importModule module)) (modules : List String) (base : Option Path) :
    P _ (run importModule modules base) := by
  have hall : P _ (importAll importModule modules) := by
    induction modules with
    | nil => exact hP.pure ()
    | cons name rest ih => exact hP.bind (hP.debug _ _) fun _ => hP.bind (himport name) fun _ => ih
  cases base with
  | none => exact hP.bind (hP.pure ()) fun _ => hall
  | some base => exact hP.bind (hpath base) fun _ => hall

/-- Writing a stub has the property that writing its file has. -/
theorem Generator.closed_write {identifiers : List String} {path : Path} (hP : Run.Closed P)
    (himport : ∀ module, P _ (importModule module)) (hfile : ∀ text, P _ (writeFile path text)) :
    P _ (write w r importModule identifiers path) :=
  hP.timed (hP.bind (closed_collected (fun _ _ m _ => hP.attempt (himport m)) hP) fun _ =>
    hP.bind (hfile _) fun _ => hP.bind (closed_emit hP _) fun _ => hP.bind (hfile _) fun _ =>
      hP.bind (hP.ofExcept _) fun _ => hP.bind (hP.debug _ _) fun _ => hP.pure _) _ _

namespace Session

theorem closed_list (hP : Run.Closed P) (c : ClassMacros) : P _ (list w r c) :=
  hP.bind_get fun _ => hP.bind (hP.ofExcept _) fun _ => hP.bind (hP.ofExcept _) fun _ => hP.pure _

theorem closed_written (hP : Run.Closed P) (x : Writing Unit) : P _ (written x) :=
  hP.bind (hP.log _) fun _ => hP.bind (hP.ofExcept _) fun _ => hP.pure _

theorem closed_registryEntries (hP : r.hostless.Closed P) (target : Value) :
    P _ (registryEntries r.hostless target) := by
  refine hP.bind (Registration.closed_registry hP) fun registry =>
    hP.bind_get (fun _ _ => rfl) fun σ => ?_
  split
  · exact hP.pure _
  · exact hP.throw _

/-- What an action is made of has a property. -/
structure Parts (P : (α : Type) → Run α → Prop) (w : World) (r : Reach)
    (importModule : String → Run Unit) : Prop extends Run.Closed P where
  imports : ∀ module, P _ (importModule module)
  invoke : ∀ v name arguments keywords, P _ (r.invoke v name arguments keywords)
  registry : ∀ target, P _ (registryEntries r target)
  write : ∀ target name v, P _ (Write.write r target name v)
  addPath : ∀ base, P _ (Bootstrap.addPath base)

/-- An action has the property that its parts have, if it has it where it writes a stub. -/
theorem Parts.act (h : Parts P w r importModule) {a : Action}
    (hwrite : ∀ ids path, a = .write ids path →
      P _ (Session.act w r importModule (.write ids path))) : P _ (Session.act w r importModule a) := by
  have hP := h.toClosed
  have himport (module : String) : P _ (Run.attempt (importModule module)) := hP.attempt (h.imports module)
  cases a with
  | register target name entry => exact hP.bind (h.invoke _ _ _ _) fun _ => hP.pure _
  | registerGlobally target name entry => exact hP.bind (h.invoke _ _ _ _) fun _ => hP.pure _
  | flush target => exact hP.bind (h.invoke _ _ _ _) fun _ => hP.pure _
  | hasMacro target name => exact hP.map (h.invoke _ _ _ _) _
  | adopt target source replace =>
    exact hP.bind (h.invoke _ _ _ _) fun _ => hP.map (h.registry _) _
  | registry target => exact hP.map (h.registry _) _
  | get target name => exact hP.map (hP.read _) _
  | hasAttribute target name => exact hP.bind (hP.read _) fun _ => hP.pure _
  | set target name v => exact hP.bind (h.write _ _ _) fun _ => hP.pure _
  | call target name arguments keywords => exact hP.map (h.invoke _ _ _ _) _
  | resolve identifier =>
    refine hP.bind (Resolution.closed_resolve hP fun m _ => himport m) fun found => ?_
    cases found <;> exact hP.pure _
  | resolveAll identifiers =>
    exact hP.map (Resolution.closed_resolveFrom hP (fun _ _ m _ => himport m) {}) _
  | findStorage target fields =>
    exact hP.bind (Extraction.closed_storage? hP _) fun _ => hP.pure _
  | extract target fields =>
    refine hP.bind (Extraction.closed_extract hP _) fun found => hP.bind ?_ fun _ => hP.pure _
    cases found with
    | none => exact hP.pure none
    | some c => exact hP.map (closed_list hP c) _
  | describe name v => exact hP.bind_get fun _ => hP.pure _
  | declare owner name v =>
    exact hP.bind_get fun _ => hP.bind (closed_written hP _) fun _ => hP.pure _
  | declareAll classes =>
    exact hP.bind_get fun _ => hP.bind (closed_written hP _) fun _ => hP.pure _
  | collect identifiers =>
    exact hP.bind (Generator.closed_collected (fun _ _ m _ => himport m) hP) fun _ =>
      hP.bind (hP.mapM (closed_list hP) _) fun _ => hP.pure _
  | render identifiers =>
    exact hP.bind (Generator.closed_render (fun _ _ m _ => himport m) hP) fun _ =>
      hP.bind (hP.ofExcept _) fun _ => hP.pure _
  | writeTo identifiers =>
    refine hP.bind (hP.attempt (Generator.closed_render (fun _ _ m _ => himport m) hP)) fun result => ?_
    split <;> exact hP.pure _
  | write identifiers path => exact hwrite _ _ rfl
  | bootstrap modules base =>
    exact hP.bind_get fun _ => hP.bind (Bootstrap.closed_run hP h.addPath h.imports _ _) fun _ =>
      hP.bind_get fun _ => hP.pure _

/-- What an action does to the state it does in the body of a module too, where what interrupts it is
raised. -/
theorem closed_runFor (hP : Run.Closed P) {a : Action} (ha : P _ (run w importModule a)) :
    P _ (runFor w importModule a) := by
  rw [runFor]
  refine hP.bind ha fun answer => ?_
  split
  · exact hP.throw _
  · exact hP.pure ()

end Session
end MacroStubs
