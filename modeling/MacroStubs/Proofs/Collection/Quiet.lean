import MacroStubs.Proofs.Traversal
import MacroStubs.Session

/-! # Quiet steps

Steps that change nothing but the host, which they report to. Resolving classes is quiet if the imports
that it attempts are, and extracting macros is.
-/

namespace MacroStubs

variable {α β : Type} {σ : State} {w : World} {r : Reach}

/-- A step that, whatever the host is, changes nothing else of a state. -/
def Run.IsQuiet (σ : State) (x : Run α) : Prop :=
  ∀ host, ∃ host', (x.run { σ with host }).2 = { σ with host := host' }

namespace Run.IsQuiet

variable {x : Run α} {f : α → Run β}

theorem pure (a : α) : (Pure.pure a : Run α).IsQuiet σ := fun host => ⟨host, rfl⟩

theorem throw (failure : Failure) : (throw failure : Run α).IsQuiet σ := fun host => ⟨host, rfl⟩

theorem get : (get : Run State).IsQuiet σ := fun host => ⟨host, rfl⟩

theorem read (g : State → Except Failure α) : (Run.read g).IsQuiet σ := fun host => ⟨host, rfl⟩

theorem onHost (f : Host → Host) : (Run.onHost f).IsQuiet σ := fun host => ⟨f host, rfl⟩

theorem report (level : Level) (reporter message : String) :
    (Run.report level reporter message).IsQuiet σ := onHost _

theorem debug (reporter message : String) : (Run.debug reporter message).IsQuiet σ := onHost _

theorem bind (hx : x.IsQuiet σ) (hf : ∀ a, (f a).IsQuiet σ) : (x >>= f).IsQuiet σ := by
  intro host
  obtain ⟨host', hs⟩ := hx host
  rw [Run.run_bind]
  generalize x.run { σ with host } = outcome at hs
  obtain ⟨result, τ⟩ := outcome
  obtain rfl : τ = { σ with host := host' } := hs
  cases result with
  | ok a => exact hf a host'
  | error failure => exact ⟨host', rfl⟩

/-- What is read of the state is that of this one but for the host. -/
theorem bind_get {f : State → Run β} (hf : ∀ host, (f { σ with host }).IsQuiet σ) :
    ((MonadState.get : Run State) >>= f).IsQuiet σ := fun host => hf host host

theorem attempt (hx : x.IsQuiet σ) : (Run.attempt x).IsQuiet σ := by
  intro host
  obtain ⟨host', hs⟩ := hx host
  refine ⟨host', ?_⟩
  rw [← hs]
  rfl

end Run.IsQuiet

theorem Run.Closed.quiet (σ : State) : Run.Closed fun _ x => x.IsQuiet σ where
  pure := .pure
  throw := .throw
  read := .read
  get := .get
  log _ := .onHost _
  bind := .bind
  attempt := .attempt

/-- What a step gives, whatever the host is. -/
def Run.Ends (σ : State) (x : Run α) (p : Except Failure α → Prop) : Prop :=
  ∀ host, p (x.run { σ with host }).1

namespace Run.Ends

variable {x : Run α} {f : α → Run β} {p : Except Failure α → Prop} {q : Except Failure β → Prop}

theorem bind (hx : x.Ends σ p) (hs : x.IsQuiet σ) (hok : ∀ a, p (.ok a) → (f a).Ends σ q)
    (herror : ∀ failure, p (.error failure) → q (.error failure)) : (x >>= f).Ends σ q := by
  intro host
  have hp := hx host
  obtain ⟨host', hs⟩ := hs host
  rw [Run.run_bind]
  generalize x.run { σ with host } = outcome at hp hs
  obtain ⟨result, τ⟩ := outcome
  obtain rfl : τ = { σ with host := host' } := hs
  cases result with
  | ok a => exact hok a hp host'
  | error failure => exact herror failure hp

theorem pure {a : α} {p : Except Failure α → Prop} (hp : p (.ok a)) :
    (Pure.pure a : Run α).Ends σ p := fun _ => hp

theorem report {level : Level} {reporter message : String} :
    (Run.report level reporter message).Ends σ (· = .ok ()) := fun _ => rfl

theorem throw {failure : Failure} {p : Except Failure α → Prop} (hp : p (.error failure)) :
    (throw failure : Run α).Ends σ p := fun _ => hp

theorem attempt (hx : x.Ends σ p) :
    (Run.attempt x).Ends σ fun e => ∃ result, e = .ok result ∧ p result :=
  fun host => ⟨_, rfl, hx host⟩

theorem bind_get {f : State → Run β} (hf : ∀ host, (f { σ with host }).Ends σ q) :
    ((MonadState.get : Run State) >>= f).Ends σ q := fun host => hf host host

/-- A step that gives a value is followed by what is done with it. -/
theorem bind_ok {a : α} (hx : x.Ends σ (· = .ok a)) (hs : x.IsQuiet σ) (hf : (f a).Ends σ q) :
    (x >>= f).Ends σ q := by
  refine hx.bind hs (fun b hb => ?_) nofun
  obtain rfl := Except.ok.inj hb
  exact hf

end Run.Ends

namespace Import

/-- Each module whose import a name asks for has been imported or is unknown. -/
def IsSettled (w : World) (σ : State) (name : String) : Prop :=
  ∀ parts, parts ≠ [] → parts <:+ (Text.pieces '.' name).reverse →
    isImported σ (joined parts) = true ∨ w.module? (joined parts) = none

end Import

namespace Extraction

variable {cls : Value}

theorem isQuiet_told (name : String) : (told w r cls name).IsQuiet σ := .read _

theorem isQuiet_storage? (fields : List String) : (storage? w r cls fields).IsQuiet σ :=
  closed_storage? (.quiet σ) fields

theorem isQuiet_refuse (key : Value) : (declarable.refuse w r cls key).IsQuiet σ :=
  closed_refuse (.quiet σ) key

theorem isQuiet_declarable (entries : List (Value × Value)) :
    (declarable w r cls entries).IsQuiet σ := closed_declarable (.quiet σ) entries

/-- Extracting the macros of a class leaves all but the host as it is. -/
theorem isQuiet_extract (fields : List String) : (extract w r fields cls).IsQuiet σ :=
  closed_extract (.quiet σ) fields

end Extraction

namespace Resolution

variable {importModule : String → Run Unit}

theorem isQuiet_resolve {identifier : String}
    (h : ∀ m ∈ modulesOf (Text.trim identifier).toList, (importModule m).IsQuiet σ) :
    (resolve r importModule identifier).IsQuiet σ :=
  closed_resolve (.quiet σ) fun m hm => (h m hm).attempt

/-- Resolving identifiers leaves all but the host as it is if imports do. -/
theorem isQuiet_ofIdentifiers {identifiers : List String}
    (h : ∀ id ∈ identifiers, ∀ m ∈ modulesOf (Text.trim id).toList, (importModule m).IsQuiet σ) :
    (ofIdentifiers r importModule identifiers).IsQuiet σ :=
  closed_resolveFrom (.quiet σ) (fun id hid m hm => (h id hid m hm).attempt) {}

end Resolution

end MacroStubs
