import MacroStubs.Proofs.Destination.Writing
import MacroStubs.Proofs.Text.Pieces

/-! # How a run ends

A run whose configuration cannot be used ends with status 1 before it touches anything. Any other run
ends with status 0 once its destination holds the whole stub, or with the failure of the step that failed.
-/

namespace MacroStubs

variable {w : World} {σ τ : State} {path : Path} {a : Arguments} {c : Config} {h : Host} {f : Failure}

namespace Generator

variable {importModule : String → Run Unit} {identifiers : List String}

/-- How the writing of a stub ends: with the failure of the first step that fails, or with a file that
holds the stub as it is rendered. -/
def Ends (w : World) (importModule : String → Run Unit) (identifiers : List String) (path : Path)
    (σ : State) (result : Except Failure Path) (after : Host) : Prop :=
  match (collected w (Reach.of w) importModule identifiers).run σ with
  | (.error f, _) => result = .error f
  | (.ok (p, found), τ) =>
    match τ.host.files.write path "", (ClassMacros.write w τ found).1 with
    | .error f, _ => result = .error f
    | .ok _, .error f => result = .error f
    | .ok _, .ok () => result = .ok path ∧ ∃ text, after.Holds path text ∧
        ((render w (Reach.of w) importModule identifiers).run σ).1 = .ok (p, .ok (), text)

/-- Records that follow change nothing of how a writing ended. -/
theorem Ends.logged {result : Except Failure Path} {after later : Host}
    (he : Ends w importModule identifiers path σ result after) (hl : after.Logged later) :
    Ends w importModule identifiers path σ result later := by
  unfold Ends at he ⊢
  split at he
  · exact he
  · split at he
    · exact he
    · exact he
    · obtain ⟨hresult, text, hheld, hrender⟩ := he
      exact ⟨hresult, text, hheld.logged hl, hrender⟩

theorem deliver_ends (σ : State) : ∃ result σ',
    (do
      let (_, found) ← collected w (Reach.of w) importModule identifiers
      deliver w found path).run σ = (result, σ') ∧
      Ends w importModule identifiers path σ result σ'.host := by
  rw [Run.run_bind]
  unfold Ends
  generalize hrun : (collected w (Reach.of w) importModule identifiers).run σ = outcome
  obtain ⟨answer, τ⟩ := outcome
  cases answer with
  | error f => exact ⟨_, _, rfl, rfl⟩
  | ok answer =>
    obtain ⟨p, found⟩ := answer
    dsimp only
    cases hopen : τ.host.files.write path "" with
    | error f => exact ⟨_, _, deliver_of_error hopen, rfl⟩
    | ok opened =>
      obtain ⟨host, hdeliver, hheld, -⟩ := @deliver_of_ok w τ path found opened hopen
      have hrender := render_of_collected hrun
      refine ⟨_, _, hdeliver, ?_⟩
      cases hwrite : (ClassMacros.write w τ found).1 with
      | error f => rfl
      | ok _ => exact ⟨rfl, _, hheld, hwrite ▸ hrender⟩

theorem write_ends (σ : State) : ∃ result σ',
    (write w (Reach.of w) importModule identifiers path).run σ = (result, σ') ∧
      Ends w importModule identifiers path σ result σ'.host := by
  obtain ⟨result, τ, hrun, hends⟩ := @deliver_ends w path importModule identifiers σ
  obtain ⟨host, hwrite, hlogged⟩ := Run.timed_run reporter "MacroStubGenerator.write" hrun
  exact ⟨result, _, hwrite, hends.logged hlogged⟩

end Generator

/-- The logging is set up without a change of the environment. -/
theorem Host.environment_setUp (h : Host) (directory : Option Path) (verbose : Bool) :
    (h.setUp directory verbose).2.environment = h.environment := by
  have hfile (h : Host) : (h.addLogFile? directory).2.environment = h.environment := by
    cases directory with
    | none => rfl
    | some d =>
      rw [addLogFile?, addLogFile]
      split
      · rfl
      · dsimp only
        split <;> rfl
  rw [setUp]
  split
  · rfl
  · have hopened := hfile (({ h with threshold := .debug } : Host).removeOwn.addOwn
      (.console (if verbose then .debug else .info)))
    dsimp only
    split
    · rename_i hfailed
      rw [hfailed] at hopened
      exact hopened
    · rename_i host hopen
      rw [hopen] at hopened
      exact ((logged_log _ _).trans (logged_log _ _)).environment.trans hopened

/-- What lies where a name is too long cannot be asked. -/
theorem Files.isDirectory_of_tooLong {files : Files} {p : Path}
    (hl : files.locate p = .error .nameTooLong) (hnull : hasNull p = false) :
    files.isDirectory p = .error (.nameTooLong p.text) := by
  rw [isDirectory, probe, hnull, hl]
  rfl

namespace Config

/-- What a path is can be told unless one of its names is too long. -/
theorem isConfiguration_of_isDirectory {files : Files} {p : Path}
    (hd : files.isDirectory p = .error f) : f.isConfiguration = false := by
  rw [Files.isDirectory, Files.probe] at hd
  split at hd
  · cases hd
  · split at hd
    · cases hd
    · obtain rfl := Except.error.inj hd
      rfl
    · cases hd

theorem validate_eq (files : Files) (c : Config) : c.validate files =
    match c.filename, files.isDirectory c.basePath with
    | none, _ => .error .noFilename
    | some _, .error f => .error f
    | some _, .ok false => .error (.baseNotDirectory c.basePath.text)
    | some _, .ok true => .ok () := by
  rw [validate]
  cases c.filename with
  | none => rfl
  | some _ =>
    cases files.isDirectory c.basePath with
    | error f => rfl
    | ok b => cases b <;> rfl

/-- Without an environment file, the environment and the flags alone tell the configuration. -/
theorem ofArguments_of_missing (hflag : a.envFile = .absent)
    (hmissing : h.files.contains (defaultEnvFile h.files.cwd) = .ok false) : ofArguments a h =
      (.ok ((ofEnvironment h.files.cwd h.environment).override (filenameOf a) a.logDir.value?
        a.verbose), h) := by
  have hnone : (Given.absent : Given Path).value? = none := rfl
  rw [ofArguments, hflag, if_neg nofun, hnone, ofHost, Option.getD_none, hmissing]
  rfl

theorem basePath_override (filename logDir : Option Path) (verbose : Bool) (cwd : Path)
    (environment : Table String String) :
    ((ofEnvironment cwd environment).override filename logDir verbose).basePath =
      (pathOf? environment "MACROS_BASE_PATH").getD cwd := by
  rw [override, ofEnvironment]

/-- Loading an environment file hands records to the handlers and may set variables. -/
theorem exists_logged_of_ofArguments (a : Arguments) (h : Host) : ∃ logged environment,
    h.Logged logged ∧ (ofArguments a h).2 = { logged with environment } := by
  have hload (path : Path) : ∃ logged environment,
      h.Logged logged ∧ (EnvFile.load path h).2 = { logged with environment } := by
    rw [EnvFile.load]
    split
    · exact ⟨_, _, Host.logged_log h _, rfl⟩
    · split
      · exact ⟨_, _, Host.logged_logAll h _, rfl⟩
      · exact ⟨_, _, .refl h, rfl⟩
  rw [ofArguments]
  split
  · exact ⟨_, _, .refl h, rfl⟩
  · rw [ofHost]
    dsimp only
    split
    · exact hload _
    · exact ⟨_, _, .refl h, rfl⟩
    · exact ⟨_, _, .refl h, rfl⟩

end Config

namespace Program

variable {importModule : String → Run Unit}

/-- How a run with a usable configuration ends: with the failure of the first step that fails, or with
its destination holding the whole stub. -/
def Ends (w : World) (importModule : String → Run Unit) (a : Arguments) (c : Config) (σ : State)
    (result : Except Failure Path) (after : Host) : Prop :=
  match (prepare importModule a c).run σ with
  | (.error f, _) => result = .error f
  | (.ok path, τ) => c.outputPath σ.host.environment = .ok path ∧
      Generator.Ends w importModule c.allClasses path τ result after

theorem ofHost_run {α : Type} (step : Host → Except Failure α × Host) (σ : State) :
    (ofHost step).run σ = ((step σ.host).1, { σ with host := (step σ.host).2 }) := rfl

theorem configure_run (hload : Config.ofArguments a σ.host = (.ok c, h)) :
    (configure a).run σ = ((c.validate h.files).map fun _ => c, { σ with host := h }) := by
  have hread : (ofHost (Config.ofArguments a)).run σ = (.ok c, { σ with host := h }) := by
    rw [ofHost_run, hload]
  have hcheck : (Run.read fun σ => c.validate σ.host.files).run { σ with host := h } =
      (c.validate h.files, { σ with host := h }) := rfl
  rw [configure, Run.bind_of_ok hread, Run.run_bind, hcheck]
  cases c.validate h.files <;> rfl

/-- The failure of any step is the failure of the run. -/
theorem runConfigured_ends (σ : State) : ∃ answer σ',
    (runConfigured w importModule a c).run σ = (answer.map fun _ => .code 0, σ') ∧
      Ends w importModule a c σ answer σ'.host := by
  unfold Ends
  rw [runConfigured, prepare]
  split
  · exact ⟨.error _, σ, rfl, rfl⟩
  have henvironment := σ.host.environment_setUp c.logDir c.verbose
  have hrun := ofHost_run (Host.setUp c.logDir c.verbose) σ
  generalize σ.host.setUp c.logDir c.verbose = outcome at henvironment hrun
  obtain ⟨answer, host⟩ := outcome
  change host.environment = σ.host.environment at henvironment
  cases answer with
  | error f =>
    refine ⟨.error f, _, Run.bind_of_error hrun, ?_⟩
    rw [Run.bind_of_error hrun]
  | ok _ =>
    rw [Run.bind_of_ok hrun, Run.bind_of_ok hrun, Run.run_bind, generate_eq]
    generalize hboot : (boot importModule c).run { σ with host } = booted
    obtain ⟨answer, ρ⟩ := booted
    cases answer with
    | error f =>
      obtain ⟨host', htimed, -⟩ := Run.timed_run reporter "generate_stubs" (Run.bind_of_error hboot)
      rw [htimed]
      exact ⟨.error f, _, rfl, rfl⟩
    | ok path =>
      have hpath := boot_eq_ok hboot
      dsimp only at hpath
      rw [henvironment] at hpath
      obtain ⟨result, τ, hwrite, hends⟩ :=
        @Generator.write_ends w path importModule c.allClasses ρ
      obtain ⟨host', htimed, hlogged⟩ := Run.timed_run reporter "generate_stubs"
        ((Run.bind_of_ok hboot).trans hwrite)
      rw [htimed]
      cases result with
      | error f => exact ⟨.error f, _, rfl, hpath, hends.logged hlogged⟩
      | ok written =>
        exact ⟨.ok written, _, rfl, hpath, hends.logged (hlogged.trans (Host.logged_log _ _))⟩

/-- A configuration that cannot be used is reported, and nothing else happens. -/
theorem runWith_of_refused (hload : Config.ofArguments a σ.host = (.ok c, h))
    (hv : c.validate h.files = .error f) (hf : f.isConfiguration = true) :
    (runWith w importModule a).run σ = (.ok (.code 1), { σ with host := { h with
      stderr := h.stderr ++ ("Configuration error: " ++ f.message ++ "\n") } }) := by
  rw [runWith, Run.attempt_bind, configure_run hload, hv]
  simp only [Except.map, hf, if_true]
  rfl

/-- A check that fails in another way is the failure of the run. -/
theorem runWith_of_failed (hload : Config.ofArguments a σ.host = (.ok c, h))
    (hv : c.validate h.files = .error f) (hf : f.isConfiguration = false) :
    (runWith w importModule a).run σ = (.error f, { σ with host := h }) := by
  rw [runWith, Run.attempt_bind, configure_run hload, hv]
  simp only [Except.map, hf, Bool.false_eq_true, if_false]
  rfl

theorem runWith_of_usable (hload : Config.ofArguments a σ.host = (.ok c, h))
    (hv : c.validate h.files = .ok ()) :
    (runWith w importModule a).run σ = (runConfigured w importModule a c).run { σ with host := h } := by
  rw [runWith, Run.attempt_bind, configure_run hload, hv]
  rfl

/-- How a run exits with arguments and the configuration that was loaded for them, which left the host
`h`. The status is 1 exactly if there is no file to write or the base path is told not to be a directory;
the report of this is then all that the run adds to what loading handed to the handlers that were there. If
the base path cannot be told at all, the run fails so and does nothing else. Otherwise it fails as the first
of its steps that fails, or ends with status 0 where its destination holds the whole stub. -/
structure Exits (w : World) (importModule : String → Run Unit) (a : Arguments) (c : Config) (h : Host)
    (σ : State) (result : Except Failure Exit) (σ' : State) : Prop where
  status : result = .ok (.code 1) ↔ c.filename = none ∨ h.files.isDirectory c.basePath = .ok false
  refused : result = .ok (.code 1) →
    (∃ f, c.validate h.files = .error f ∧ σ' = { σ with host := { h with
      stderr := h.stderr ++ ("Configuration error: " ++ f.message ++ "\n") } }) ∧
    h.handlers = σ.host.handlers ∧
    ∀ s : Place, σ.host.IsApart s → h.files.node? s.names = σ.host.files.node? s.names
  otherwise : result ≠ .ok (.code 1) →
    match h.files.isDirectory c.basePath with
    | .error f => result = .error f ∧ σ' = { σ with host := h }
    | .ok _ => ∃ answer, result = answer.map (fun _ => .code 0) ∧
        Ends w importModule a c { σ with host := h } answer σ'.host

end Program

/-- How every run exits whose arguments are accepted and whose environment can be loaded. -/
theorem exit_of_command {words : List String} (hwords : Arguments.ofWords words = .accepted a)
    (hload : Config.ofArguments a σ.host = (.ok c, h)) : ∃ result σ',
    (Program.main w (importModule w) words).run σ = (result, σ') ∧
      Program.Exits w (importModule w) a c h σ result σ' := by
  obtain ⟨logged, environment, hlogged, hhost⟩ := Config.exists_logged_of_ofArguments a σ.host
  have hhost : h = { logged with environment } := by rw [← hhost, hload]
  have huntouched : h.handlers = σ.host.handlers ∧
      ∀ s : Place, σ.host.IsApart s → h.files.node? s.names = σ.host.files.node? s.names := by
    rw [hhost]
    exact ⟨hlogged.handlers, fun s ha => (hlogged.spares ha).files.node⟩
  rw [Program.main, hwords]
  have hvalidate := Config.validate_eq h.files c
  cases hfile : c.filename with
  | none =>
    rw [hfile] at hvalidate
    exact ⟨_, _, Program.runWith_of_refused hload hvalidate rfl, by simp [hfile],
      fun _ => ⟨⟨_, hvalidate, rfl⟩, huntouched⟩, fun hne => absurd rfl hne⟩
  | some filename =>
    rw [hfile] at hvalidate
    cases hbase : h.files.isDirectory c.basePath with
    | error f =>
      rw [hbase] at hvalidate
      have hf := Config.isConfiguration_of_isDirectory hbase
      refine ⟨_, _, Program.runWith_of_failed hload hvalidate hf, by simp [hfile, hbase], nofun, ?_⟩
      rw [hbase]
      exact fun _ => ⟨rfl, rfl⟩
    | ok found =>
      rw [hbase] at hvalidate
      cases found with
      | false =>
        exact ⟨_, _, Program.runWith_of_refused hload hvalidate rfl, by simp [hbase],
          fun _ => ⟨⟨_, hvalidate, rfl⟩, huntouched⟩, fun hne => absurd rfl hne⟩
      | true =>
        obtain ⟨answer, σ', hrun, hends⟩ :=
          @Program.runConfigured_ends w a c (importModule w) { σ with host := h }
        have hcode : (answer.map fun _ => Exit.code 0) ≠ .ok (.code 1) := by
          cases answer <;> simp [Except.map]
        refine ⟨_, _, (Program.runWith_of_usable hload hvalidate).trans hrun,
          by simp [hfile, hbase, hcode], fun hone => absurd hone hcode, ?_⟩
        rw [hbase]
        exact fun _ => ⟨answer, rfl, hends⟩

namespace Desk

/-- A state of the desk with variables in its environment. -/
def equipped (environment : Table String String) : State :=
  { site.state with host := { host with environment } }

/-- The variables of a run that writes the stub of one class. -/
def settings : Table String String :=
  [("MACROS_CLASSES", "app:Till"), ("MACROS_BOOTSTRAP", "app"), ("MACROS_FILENAME", "other.pyi")]

/-- Flags that name another file, and a directory of logs. -/
def flags : List String := ["--filename=stub.pyi", "--log-dir=logs"]

def accepted : Arguments :=
  { filename := .value "stub.pyi", logDir := .value { parts := ["logs"] } }

/-- How a run with flags ends, and what lies at a place then. -/
def exit (σ : State) (words : List String) (name : String) :
    Except Failure Exit × Option Node :=
  let (result, σ) := (Program.main site.world (importModule site.world) words).run σ
  (result, σ.node? (place name))

/-- A name with one byte more than a name may have. -/
@[irreducible] def longName : String := String.ofList (List.replicate 256 'a')

def longPath : Path := { parts := [longName] }

theorem toList_longName : longName.toList = List.replicate 256 'a' := by
  unfold longName
  exact String.toList_ofList

theorem text_longPath : longPath.text = longName := by simp [longPath, Path.text]

theorem size_longName : longName.utf8ByteSize = 256 := by decide +kernel

theorem locate_longPath : host.files.locate longPath = .error .nameTooLong := by
  have hsize := size_longName
  have hwalk : host.files.walk ["work"] [longName] = .error .nameTooLong := by
    rw [Files.walk, show host.files.node? ["work"] = some .directory from rfl]
    dsimp only
    rw [if_pos (by rw [hsize]; decide)]
    rfl
  rw [Files.locate, text_longPath, if_neg (by rw [hsize]; decide)]
  exact hwalk

theorem pathOf?_longName {environment : Table String String} {name : String}
    (h : environment.get? name = some longName) : Config.pathOf? environment name = some longPath := by
  have htrim : Text.trim longName = longName := by
    rw [Text.trim, toList_longName, Text.dropEndWhile, List.dropWhile_replicate, if_neg (by decide),
      List.reverse_replicate, List.dropWhile_replicate, if_neg (by decide), List.reverse_replicate,
      ← toList_longName, String.ofList_toList]
  have hother (s : String) (hs : s.utf8ByteSize ≠ 256) : longName ≠ s := by
    rintro rfl
    exact hs size_longName
  have hkept : longName ≠ "" ∧ longName ≠ "." := ⟨hother _ (by decide), hother _ (by decide)⟩
  have hslash : '/' ∉ longName.toList := fun h =>
    absurd (List.eq_of_mem_replicate (toList_longName ▸ h)) (by decide)
  have hroot : Path.rootOf longName.toList = "" := by
    rw [Path.rootOf, toList_longName, List.takeWhile_replicate, if_neg (by decide)]
    rfl
  have hpath : Path.ofText longName = longPath := by
    rw [Path.ofText, hroot, Path.partsOf, Text.pieces, Text.splitOn_of_not_mem hslash, List.map_singleton,
      String.ofList_toList, List.filter_cons_of_pos (by simpa using hkept)]
    rfl
  have hempty : longName.isEmpty = false :=
    Bool.eq_false_iff.mpr fun h => hkept.1 (String.isEmpty_iff.mp h)
  simp only [Config.pathOf?, h, Option.getD_some, htrim, hempty, hpath, Bool.false_eq_true, if_false]

end Desk

open Desk in
/-- A run with a usable configuration replaces the older stub, and the flag goes before the variable. -/
theorem till_exits :
    (∃ result σ', (Program.main site.world (importModule site.world) flags).run (equipped settings) =
        (result, σ') ∧
      Program.Exits site.world (importModule site.world) accepted
        (configured "stub.pyi" "logs" ["app:Till"])
        (Config.ofArguments accepted (equipped settings).host).2 (equipped settings) result σ') ∧
      exit (equipped settings) flags "stub.pyi" = (.ok (.code 0), some (.file stub)) :=
  ⟨exit_of_command (by decide +kernel) (Prod.ext (by decide +kernel) rfl), by decide +kernel⟩

open Desk in
/-- Nothing can lie at a base path whose name is too long, so it is no directory. But the run is not ended
with status 1: the failure to ask for the path leaves it. -/
theorem long_basePath_fails :
    let σ := equipped [("MACROS_BASE_PATH", longName)]
    (∃ c, Config.ofArguments { filename := .value "stub.pyi" } σ.host = (.ok c, σ.host) ∧
      c.basePath = longPath ∧ σ.host.files.find? c.basePath = none) ∧
    ((Program.main site.world (importModule site.world) ["--filename=stub.pyi"]).run σ).1 =
      .error (.nameTooLong longName) := by
  intro σ
  let a : Arguments := { filename := .value "stub.pyi" }
  have hwords : Arguments.ofWords ["--filename=stub.pyi"] = .accepted a := by decide +kernel
  have hload := Config.ofArguments_of_missing (a := a) (h := σ.host) rfl (by decide +kernel)
  have hbase := Config.basePath_override (Config.filenameOf a) a.logDir.value? a.verbose
    σ.host.files.cwd σ.host.environment
  rw [pathOf?_longName rfl, Option.getD_some] at hbase
  have hfile : Config.filenameOf a = some { parts := ["stub.pyi"] } := by decide +kernel
  have hdirectory : σ.host.files.isDirectory longPath = .error (.nameTooLong longName) := by
    refine (Files.isDirectory_of_tooLong locate_longPath ?_).trans (by rw [text_longPath])
    rw [Files.hasNull, text_longPath, toList_longName]
    decide
  have hvalidate := Config.validate_eq σ.host.files ((Config.ofEnvironment σ.host.files.cwd
    σ.host.environment).override (Config.filenameOf a) a.logDir.value? a.verbose)
  rw [hbase, hdirectory, Config.override, hfile, Option.some_or] at hvalidate
  refine ⟨⟨_, hload, hbase, ?_⟩, ?_⟩
  · rw [hbase, Files.find?, show σ.host.files.locate longPath = _ from locate_longPath]
  · rw [Program.main, hwords]
    exact congrArg (·.1) (Program.runWith_of_failed hload hvalidate rfl)

end MacroStubs
