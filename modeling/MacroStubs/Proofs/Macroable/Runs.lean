import MacroStubs.Proofs.Macroable.Calls
import MacroStubs.World.Build

/-! # Runs of calls

Any calls that register, adopt or remove macros, one after the other on any classes with registries of
their own. In a hierarchy what a name means afterwards depends on what was registered and removed alone.
-/

namespace MacroStubs

variable {w : World} {σ : State} {c : ClassId} {name : String} {member : Value} {h : History}
variable {classes : List ClassId}

namespace Registry

variable {holds : Value → Run Bool} {put : Value → Value → Run Unit} {replace : Bool} {σ' : State}
variable {rest : List (String × Value)}

theorem adoptAll_of_private (hp : Text.beginsWith name "_" = true) :
    adoptAll holds put replace ((name, member) :: rest) = adoptAll holds put replace rest := by
  rw [adoptAll, if_pos hp]

theorem adoptAll_of_wanted (hp : Text.beginsWith name "_" = false)
    (hw : replace = true ∨ (holds (.str name)).run σ = (.ok false, σ))
    (hs : (put (.str name) member).run σ = (.ok (), σ')) :
    (adoptAll holds put replace ((name, member) :: rest)).run σ =
      (adoptAll holds put replace rest).run σ' := by
  rw [adoptAll, hp, if_neg Bool.false_ne_true]
  cases replace with
  | true => exact Run.bind_of_ok hs
  | false =>
    rw [if_neg Bool.false_ne_true]
    refine (Run.bind_of_ok (hw.resolve_left Bool.false_ne_true)).trans ?_
    exact Run.bind_of_ok hs

theorem adoptAll_of_held (hp : Text.beginsWith name "_" = false)
    (hh : (holds (.str name)).run σ = (.ok true, σ)) :
    (adoptAll holds put false ((name, member) :: rest)).run σ =
      (adoptAll holds put false rest).run σ := by
  rw [adoptAll, hp, if_neg Bool.false_ne_true, if_neg Bool.false_ne_true]
  exact Run.bind_of_ok hh

theorem adoptAll_of_failed {failure : Failure} (hp : Text.beginsWith name "_" = false)
    (hh : (holds (.str name)).run σ = (.error failure, σ)) :
    (adoptAll holds put false ((name, member) :: rest)).run σ = (.error failure, σ) := by
  rw [adoptAll, hp, if_neg Bool.false_ne_true, if_neg Bool.false_ne_true]
  exact Run.bind_of_error hh

/-- Registers members on a class through the functions that it has. -/
def adoptThrough (r : Reach) (c : ClassId) (replace : Bool) (members : List (String × Value)) :
    Run Unit :=
  adoptAll
    (fun name => do BuiltinCall.truth r (← r.invoke (.cls c) Native.holds.name [name] []))
    (fun name member => do
      let _ ← r.invoke (.cls c) Native.register.name [name, member] [])
    replace members

end Registry

namespace History

/-- What adopting members does: each whose name begins with no low line is registered, one after the
other, those that mean something already only if they are replaced. -/
def adopted (lineage : List ClassId) (c : ClassId) (replace : Bool) :
    List (String × Value) → History → History
  | [], h => h
  | (name, member) :: rest, h =>
    if Text.beginsWith name "_" then adopted lineage c replace rest h
    else if replace || (h.meaning? lineage name).isNone then
      adopted lineage c replace rest (.registered c name member :: h)
    else adopted lineage c replace rest h

/-- The same where the registries tell what a name means. No more is registered once they cannot. -/
def adoptedIn (c : ClassId) (replace : Bool) :
    List (String × Value) → State → History → History
  | [], _, h => h
  | (name, member) :: rest, σ, h =>
    if Text.beginsWith name "_" then adoptedIn c replace rest σ h
    else
      match if replace then .ok none else Registry.find? σ c (.str name) with
      | .ok none =>
        adoptedIn c replace rest ((Registry.register c (.str name) member).run σ).2
          (.registered c name member :: h)
      | .ok (some _) => adoptedIn c replace rest σ h
      | .error _ => h

end History

namespace Kindred

/-- What becomes of the first of some members when they are adopted, before the others are. -/
theorem adoptThrough_cons (hk : Kindred σ classes) (hc : c ∈ classes) (replace : Bool) (i : Nat)
    (name : String) (member : Value) (rest : List (String × Value)) :
    (Registry.adoptThrough (Reach.within w (i + 3)) c replace ((name, member) :: rest)).run σ =
      if Text.beginsWith name "_" then
        (Registry.adoptThrough (Reach.within w (i + 3)) c replace rest).run σ
      else
        match if replace then .ok none else Registry.find? σ c (.str name) with
        | .ok none =>
          (Registry.adoptThrough (Reach.within w (i + 3)) c replace rest).run
            ((Registry.register c (.str name) member).run σ).2
        | .ok (some _) => (Registry.adoptThrough (Reach.within w (i + 3)) c replace rest).run σ
        | .error failure => (.error failure, σ) := by
  have hput := hk.invoke_register (w := w) hc name member i
  have hh := (hk.inherits c hc).truth_holds (w := w) name (i + 1)
  cases hp : Text.beginsWith name "_" with
  | true =>
    rw [if_pos rfl]
    exact congrArg (fun x : Run Unit => x.run σ) (Registry.adoptAll_of_private hp)
  | false =>
    rw [if_neg Bool.false_ne_true]
    cases replace with
    | true => exact Registry.adoptAll_of_wanted hp (.inl rfl) (Run.bind_of_ok hput)
    | false =>
      rw [if_neg Bool.false_ne_true]
      cases hf : Registry.find? σ c (.str name) with
      | error failure =>
        rw [hf] at hh
        exact Registry.adoptAll_of_failed hp hh
      | ok found =>
        rw [hf] at hh
        cases found with
        | none => exact Registry.adoptAll_of_wanted hp (.inr hh) (Run.bind_of_ok hput)
        | some held => exact Registry.adoptAll_of_held hp hh

/-- Adopting members one after the other. -/
theorem adoptThrough_steps (hk : Kindred σ classes) (hc : c ∈ classes) (h : History)
    (replace : Bool) (i : Nat) (members : List (String × Value)) :
    Steps classes σ h ((Registry.adoptThrough (Reach.within w (i + 3)) c replace members).run σ).2
      (h.adoptedIn c replace members σ) := by
  induction members generalizing σ h with
  | nil => exact .refl
  | cons e rest ih =>
    obtain ⟨name, member⟩ := e
    rw [hk.adoptThrough_cons hc, History.adoptedIn]
    split
    · exact ih hk h
    · have hs := hk.register_steps hc h name member
      rcases (if replace then .ok none else Registry.find? σ c (.str name) :
        Except Failure (Option Value)) with failure | _ | held
      · exact .refl
      · exact hs.trans (ih (hs.kindred hk) _)
      · exact ih hk h

end Kindred

/-- In a hierarchy the registries tell of names what the history does. -/
theorem Remembers.adoptedIn_eq (hr : Remembers σ classes h) (hc : c ∈ classes) (replace : Bool)
    (members : List (String × Value)) :
    h.adoptedIn c replace members σ = h.adopted (σ.lineage c) c replace members := by
  induction members generalizing σ h with
  | nil => rfl
  | cons e rest ih =>
    obtain ⟨name, member⟩ := e
    have hs := hr.kindred.register_steps hc h name member
    have hrest := ih (hs.leaves hr).remembers
    rw [(hs.leaves hr).lineage] at hrest
    rw [History.adoptedIn, History.adopted, hrest, ih hr, hr.find?_eq hc]
    cases replace with
    | true => rfl
    | false => cases h.meaning? (σ.lineage c) name <;> rfl

/-- A call on a class that registers, adopts or removes macros. -/
inductive RegistryCall where
  | register (c : ClassId) (name : String) (entry : Value)
  | registerGlobally (c : ClassId) (name : String) (entry : Value)
  | adopt (c : ClassId) (source : Value) (replace : Option Bool)
  | flush (c : ClassId)

namespace RegistryCall

def target : RegistryCall → ClassId
  | register c .. | registerGlobally c .. | adopt c .. | flush c => c

/-- How a call tells whether to replace what is registered already; if it does not tell, it does. -/
def keywords : Option Bool → Table String Value
  | some b => [("replace", .bool b)]
  | none => []

/-- What the call does: it reads the function through the class and calls it. -/
def run (w : World) : RegistryCall → Run Value
  | register c name entry =>
    (Reach.of w).invoke (.cls c) Native.register.name [.str name, entry] []
  | registerGlobally c name entry =>
    (Reach.of w).invoke (.cls c) Native.registerGlobally.name [.str name, entry] []
  | adopt c source replace =>
    (Reach.of w).invoke (.cls c) Native.adopt.name [source] (keywords replace)
  | flush c => (Reach.of w).invoke (.cls c) Native.flush.name [] []

/-- The routines that a source has where a call adopts them. -/
def routines (w : World) (σ : State) (source : Value) : Except Failure (List (String × Value)) :=
  Members.routines (Reach.within w (Value.maxNesting - 2)) σ source

/-- What has happened after the call if `h` happened before it. A source whose routines cannot be
told gives none. -/
def after (w : World) (σ : State) (h : History) : RegistryCall → History
  | register c name entry => .registered c name entry :: h
  | registerGlobally _ name entry => .registered rootClass name entry :: h
  | adopt c source replace =>
    match routines w σ source with
    | .ok members => h.adopted (σ.lineage c) c (replace.getD true) members
    | .error _ => h
  | flush c => .emptied c :: h

/-- The same where the registries tell what a name means. -/
def afterIn (w : World) (σ : State) (h : History) : RegistryCall → History
  | adopt c source replace =>
    match routines w σ source with
    | .ok members => h.adoptedIn c (replace.getD true) members σ
    | .error _ => h
  | call => call.after w σ h

/-- The state after some calls. -/
def runAll (w : World) : List RegistryCall → State → State
  | [], σ => σ
  | call :: rest, σ => runAll w rest ((call.run w).run σ).2

/-- What has happened after some calls if `h` happened before them. -/
def history (w : World) : List RegistryCall → State → History → History
  | [], _, h => h
  | call :: rest, σ, h => history w rest ((call.run w).run σ).2 (call.after w σ h)

/-- The same where the registries tell what a name means. -/
def historyIn (w : World) : List RegistryCall → State → History → History
  | [], _, h => h
  | call :: rest, σ, h => historyIn w rest ((call.run w).run σ).2 (call.afterIn w σ h)

end RegistryCall

/-- Adopting through a class. Nothing is registered if the routines of the source cannot be told. -/
theorem Native.invoke_adopt {i : Nat}
    (hread : (Reach.within w (i + 2)).read σ (.cls c) Native.adopt.name =
      .ok (.bound none (.native .adopt) (.cls c)))
    (source : Value) (replace : Option Bool) :
    ((Reach.within w (i + 2)).invoke (.cls c) Native.adopt.name [source]
        (RegistryCall.keywords replace)).run σ =
      match Members.routines (Reach.within w i) σ source with
      | .ok members =>
        (do
          Registry.adoptThrough (Reach.within w i) c (replace.getD true) members
          pure Value.null : Run Value).run σ
      | .error failure => (.error failure, σ) := by
  have hv : Arguments.ofCall Native.adopt.parameters [.cls c, source]
      (RegistryCall.keywords replace) =
        .ok [("cls", .cls c), ("source", source), ("replace", .bool (replace.getD true))] := by
    cases replace <;> rfl
  have ht : (BuiltinCall.truth (Reach.within w i) (.bool (replace.getD true))).run σ =
      (.ok (replace.getD true), σ) := rfl
  rw [Native.invoke_of_read hread hv]
  refine (Run.bind_of_ok ht).trans ?_
  cases hm : Members.routines (Reach.within w i) σ source with
  | ok members =>
    have hg : (Registration.adopt (Reach.within w i) (.cls c) source (replace.getD true)).run σ =
        (Registry.adoptThrough (Reach.within w i) c (replace.getD true) members).run σ := by
      rw [Registration.adopt, Run.bind_of_ok (Run.read_of_ok hm)]
      rfl
    refine (Run.run_bind _ _ _).trans ?_
    rw [hg]
    exact (Run.run_bind _ _ _).symm
  | error failure =>
    have hg : (Registration.adopt (Reach.within w i) (.cls c) source (replace.getD true)).run σ =
        (.error failure, σ) := Run.bind_of_error (congrArg (·, σ) hm)
    exact Run.bind_of_error hg

namespace Kindred

/-- Adopting the routines of a source, if these can be told, which is before any is registered. -/
theorem invoke_adopt (hk : Kindred σ classes) (hc : c ∈ classes) (h : History) (source : Value)
    (replace : Option Bool) (i : Nat) :
    Steps classes σ h
      (((Reach.within w (i + 5)).invoke (.cls c) Native.adopt.name [source]
        (RegistryCall.keywords replace)).run σ).2
      (match Members.routines (Reach.within w (i + 3)) σ source with
      | .ok members => h.adoptedIn c (replace.getD true) members σ
      | .error _ => h) := by
  have hread := (hk.inherits c hc).read (w := w) (n := .adopt) (by decide) (i + 4)
  rw [Native.invoke_adopt hread source replace]
  cases Members.routines (Reach.within w (i + 3)) σ source with
  | ok members =>
    have hs := hk.adoptThrough_steps (w := w) hc h (replace.getD true) i members
    dsimp only
    rw [Run.run_bind]
    cases hrun : (Registry.adoptThrough (Reach.within w (i + 3)) c (replace.getD true) members).run σ
      with
    | mk result σ' =>
      rw [hrun] at hs
      cases result <;> exact hs
  | error failure => exact .refl

/-- What one call changes has happened after it. -/
theorem call_steps (hk : Kindred σ classes) (h : History) (call : RegistryCall)
    (ht : call.target ∈ classes) :
    Steps classes σ h ((call.run w).run σ).2 (call.afterIn w σ h) := by
  cases call with
  | register c name entry =>
    exact .of_run (hk.invoke_register ht name entry 987) (hk.register_steps ht h name entry)
  | registerGlobally c name entry =>
    obtain ⟨σ', hrun, hs⟩ := hk.invoke_registerGlobally (w := w) ht h name entry 988
    exact .of_run hrun hs
  | adopt c source replace => exact hk.invoke_adopt ht h source replace 985
  | flush c =>
    obtain ⟨σ', hrun, hs⟩ := hk.invoke_flush (w := w) ht h 987
    exact .of_run hrun hs

theorem runAll_steps (hk : Kindred σ classes) (h : History) (calls : List RegistryCall)
    (ht : ∀ call ∈ calls, call.target ∈ classes) :
    Steps classes σ h (RegistryCall.runAll w calls σ) (RegistryCall.historyIn w calls σ h) := by
  induction calls generalizing σ h with
  | nil => exact .refl
  | cons call rest ih =>
    obtain ⟨hcall, hrest⟩ := List.forall_mem_cons.mp ht
    have hs := hk.call_steps (w := w) h call hcall
    exact hs.trans (ih (hs.kindred hk) _ hrest)

end Kindred

namespace Remembers

theorem afterIn_eq (hr : Remembers σ classes h) (call : RegistryCall) (ht : call.target ∈ classes) :
    call.afterIn w σ h = call.after w σ h := by
  cases call with
  | adopt c source replace =>
    have hc : c ∈ classes := ht
    rw [RegistryCall.afterIn, RegistryCall.after]
    simp only [hr.adoptedIn_eq hc]
  | register | registerGlobally | flush => rfl

theorem historyIn_eq (hr : Remembers σ classes h) (calls : List RegistryCall)
    (ht : ∀ call ∈ calls, call.target ∈ classes) :
    RegistryCall.historyIn w calls σ h = RegistryCall.history w calls σ h := by
  induction calls generalizing σ h with
  | nil => rfl
  | cons call rest ih =>
    obtain ⟨hcall, hrest⟩ := List.forall_mem_cons.mp ht
    have hs := hr.kindred.call_steps (w := w) h call hcall
    rw [hr.afterIn_eq call hcall] at hs
    rw [RegistryCall.historyIn, RegistryCall.history, hr.afterIn_eq call hcall]
    exact ih (hs.leaves hr).remembers hrest

/-- Calls leave the registries with what has happened after them. -/
theorem runAll_run (hr : Remembers σ classes h) (calls : List RegistryCall)
    (ht : ∀ call ∈ calls, call.target ∈ classes) :
    Leaves σ classes (RegistryCall.history w calls σ h) (RegistryCall.runAll w calls σ) := by
  have hs := hr.kindred.runAll_steps (w := w) h calls ht
  rw [hr.historyIn_eq calls ht] at hs
  exact hs.leaves hr

end Remembers

/-- A name means nothing if no class of the lineage has a macro of that name and there is none for
all. -/
theorem History.meaning?_eq_none_iff {lineage : List ClassId} :
    h.meaning? lineage name = none ↔
      (∀ k ∈ lineage, k ≠ rootClass → h.last? k name = none) ∧ h.last? rootClass name = none := by
  rw [meaning?, Option.or_eq_none_iff, List.findSome?_eq_none_iff]
  simp only [List.mem_filter, decide_eq_true_eq, and_imp]

/-- After any calls on the classes of a hierarchy whose registries are empty at first, a name means
on a class what was registered last on the first class of the lineage that still has it, or else
last for all; nothing is found if and only if neither is there. -/
theorem macros_after_calls (hσ : Hierarchy σ classes) (he : ∀ c ∈ classes, σ.registered c = [])
    (calls : List RegistryCall) (ht : ∀ call ∈ calls, call.target ∈ classes) (hc : c ∈ classes)
    (name : String) :
    let τ := RegistryCall.runAll w calls σ
    let h := RegistryCall.history w calls σ []
    let found := ((σ.lineage c).filter (· ≠ rootClass)).findSome? (h.last? · name)
      |>.or (h.last? rootClass name)
    ((Reach.of w).invoke (.cls c) Native.find.name [.str name] []).run τ =
        (.ok (found.getD .missing), τ) ∧
      ((Reach.of w).invoke (.cls c) Native.holds.name [.str name] []).run τ =
        (.ok (.bool found.isSome), τ) ∧
      (found = none ↔ (∀ k ∈ σ.lineage c, k ≠ rootClass → h.last? k name = none) ∧
        h.last? rootClass name = none) := by
  intro τ h found
  have hl : Leaves σ classes h τ := (Remembers.of_empty hσ he).runAll_run calls ht
  have hf := hl.remembers.invoke_find (w := w) hc name 988
  have hh := hl.remembers.invoke_holds (w := w) hc name 988
  rw [hl.lineage] at hf hh
  exact ⟨hf, hh, History.meaning?_eq_none_iff⟩

namespace Diamond

/-- Two classes below one and a class below both. -/
def site : Site :=
  (Site.empty default)
    |>.addClass "Top" "Top" "Top" "app" [rootClass] .null []
    |>.addClass "Left" "Left" "Left" "app" [.defined "Top"] .null []
    |>.addClass "Right" "Right" "Right" "app" [.defined "Top"] .null []
    |>.addClass "Bottom" "Bottom" "Bottom" "app" [.defined "Left", .defined "Right"] .null []

def family : List ClassId :=
  [rootClass, .defined "Top", .defined "Left", .defined "Right", .defined "Bottom"]

/-- A macro of one class is hidden by that of another one and seen again. -/
def calls : List RegistryCall :=
  [.register (.defined "Top") "first" (.int 1),
    .registerGlobally (.defined "Left") "first" (.int 2),
    .register (.defined "Right") "first" (.int 3), .flush (.defined "Right")]

theorem forall_family {p : ClassId → Prop} (h : p rootClass ∧ p (.defined "Top") ∧
    p (.defined "Left") ∧ p (.defined "Right") ∧ p (.defined "Bottom")) : ∀ c ∈ family, p c := by
  simpa [family] using h

theorem hierarchy_state : Hierarchy site.state family := by decide

theorem registered_state : ∀ c ∈ family, site.state.registered c = [] :=
  forall_family ⟨rfl, rfl, rfl, rfl, rfl⟩

end Diamond

theorem diamond_macros_after_calls :
    ((Reach.of Diamond.site.world).invoke (.cls (.defined "Bottom")) Native.find.name
        [.str "first"] []).run
      (RegistryCall.runAll Diamond.site.world Diamond.calls Diamond.site.state) =
        (.ok (.int 1), RegistryCall.runAll Diamond.site.world Diamond.calls Diamond.site.state) :=
  (macros_after_calls Diamond.hierarchy_state Diamond.registered_state Diamond.calls (by decide)
    (by decide) "first").1

end MacroStubs
