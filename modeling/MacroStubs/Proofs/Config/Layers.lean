import MacroStubs.Config.Basic
import MacroStubs.Proofs.Config.CommandLine
import MacroStubs.Proofs.Destination.Logging

/-! # Layers of a configuration

Flags go before variables, and variables that are set before those of the environment file. The merge is
made field by field, so what counts as absent is said of each layer: a flag that is not given, a variable
that is missing or blank.
-/

namespace MacroStubs

namespace Table

variable {κ α : Type} [BEq κ] [LawfulBEq κ]

theorem has_put_of_has (t : Table κ α) (k : κ) (v : α) {k' : κ} (h : t.has k') :
    (t.put k v).has k' := by
  by_cases hk : k = k'
  · rw [has_eq_isSome_get?, ← hk, get?_put_self]
    rfl
  · rwa [has_eq_isSome_get?, get?_put_of_ne t v hk, ← has_eq_isSome_get?]

end Table

/-- What can be told to lie at a path lies there. -/
theorem Files.find?_of_probe {files : Files} {p : Path} {node : Node}
    (hp : files.probe p = .ok (some node)) : files.find? p = some node := by
  rw [probe] at hp
  split at hp
  · cases hp
  · split at hp
    · rename_i names hlocate
      rw [find?, hlocate]
      exact Except.ok.inj hp
    · cases hp
    · cases hp

namespace EnvFile

variable {environment : Table String String} {path : Path} {h : Host}

/-- The bindings that have a value. -/
def valued (bindings : Table String (Option String)) : Table String String :=
  bindings.filterMap fun (name, value) => value.map (name, ·)

/-- The variables that the file at a path gives, seen from a host; none if no file is there. -/
def fileVariables (path : Path) (h : Host) : Table String String :=
  match h.files.probe path with
  | .ok (some (.file text)) => valued (resolve h.environment [] (read text).bindings)
  | _ => []

/-- Whether a process can have a variable. -/
def IsSettable (name value : String) : Prop :=
  '\x00' ∉ name.toList ∧ '\x00' ∉ value.toList ∧ '=' ∉ name.toList

instance (name value : String) : Decidable (IsSettable name value) :=
  inferInstanceAs (Decidable (_ ∧ _ ∧ _))

/-- Every variable that is set already is left, and every other one gets the value of its first binding. -/
theorem setAll_ok (bindings : Table String (Option String)) (environment : Table String String)
    (hset : ∀ e ∈ valued bindings, environment.has e.1 ∨ IsSettable e.1 e.2) :
    ∃ environment', setAll environment bindings = (.ok (), environment') ∧
      ∀ name, environment'.get? name = (environment.get? name).or ((valued bindings).get? name) := by
  induction bindings generalizing environment with
  | nil => exact ⟨environment, rfl, fun name => (Option.or_none).symm⟩
  | cons binding rest ih =>
    obtain ⟨name, value⟩ := binding
    cases value with
    | none => exact ih environment hset
    | some v =>
      have hvalued : valued ((name, some v) :: rest) = (name, v) :: valued rest := rfl
      rw [hvalued] at hset ⊢
      obtain ⟨hfirst, hrest⟩ := List.forall_mem_cons.mp hset
      rw [setAll]
      by_cases hhas : environment.has name
      · obtain ⟨environment', hall, hget⟩ := ih environment hrest
        refine ⟨environment', by simp only [hhas, if_true, hall], fun n => ?_⟩
        rw [Table.has_eq_isSome_get?, Option.isSome_iff_exists] at hhas
        obtain ⟨old, hold⟩ := hhas
        rw [hget, Table.get?_cons]
        split
        · rename_i hname
          rw [← eq_of_beq hname, hold, Option.some_or, Option.some_or]
        · rfl
      · obtain ⟨hname, hvalue, hequals⟩ := hfirst.resolve_left hhas
        have hput : ∀ e ∈ valued rest, (environment.put name v).has e.1 ∨ IsSettable e.1 e.2 :=
          fun e he => (hrest e he).imp_left (Table.has_put_of_has environment name v)
        obtain ⟨environment', hall, hget⟩ := ih (environment.put name v) hput
        refine ⟨environment', ?_, fun n => ?_⟩
        · simp [hhas, hname, hvalue, hequals, hall]
        · rw [Table.has_eq_isSome_get?, Option.not_isSome_iff_eq_none] at hhas
          rw [hget, Table.get?_cons]
          split
          · rename_i hn
            obtain rfl := eq_of_beq hn
            rw [Table.get?_put_self, hhas, Option.some_or, Option.none_or]
          · rename_i hn
            rw [Table.get?_put_of_ne _ _ (by simpa using hn)]

/-- A file that can be loaded: nothing forbids it, what lies at its path can be told, and a process can
have each variable that is not set yet. -/
structure IsLoadable (path : Path) (h : Host) : Prop where
  allowed : forbids h.environment = false
  told : (h.files.probe path).isOk
  settable : ∀ e ∈ fileVariables path h, h.environment.has e.1 ∨ IsSettable e.1 e.2

/-- The value of a variable: what the process has, and only if it has none, what the file gives. -/
def valueOf? (path : Path) (h : Host) (name : String) : Option String :=
  (h.environment.get? name).or ((fileVariables path h).get? name)

/-- Loading a file that is there completes the variables of the process. -/
theorem load_of_isLoadable {node : Node} (hl : IsLoadable path h)
    (hnode : h.files.probe path = .ok (some node)) : ∃ h', load path h = (.ok (), h') ∧
      h'.files.cwd = h.files.cwd ∧ ∀ name, h'.environment.get? name = valueOf? path h name := by
  obtain ⟨hallowed, -, hset⟩ := hl
  have hfind := Files.find?_of_probe hnode
  unfold valueOf?
  unfold fileVariables at hset ⊢
  rw [hnode] at hset ⊢
  rw [load, hallowed, if_neg Bool.false_ne_true, hfind]
  cases node with
  | directory => exact ⟨h, rfl, rfl, fun name => Option.or_none.symm⟩
  | file text =>
    have hlogged := h.logged_logAll ((read text).faults.map faultRecord)
    obtain ⟨environment, hall, hget⟩ := setAll_ok _ _ hset
    refine ⟨{ h.logAll ((read text).faults.map faultRecord) with environment }, ?_,
      hlogged.grows.cwd, hget⟩
    dsimp only
    rw [hlogged.environment, hall]

end EnvFile

namespace Config
open EnvFile

/-- The path that a value names, none for a missing or a blank one. -/
def pathIn? (value : Option String) : Option Path :=
  let s := Text.trim (value.getD "")
  if s.isEmpty then none else some (Path.ofText s)

/-- The configuration that the values of variables give, seen from a working directory. -/
def ofVariables (cwd : Path) (get? : String → Option String) : Config where
  classes := splitList (get? "MACROS_CLASSES")
  filename := pathIn? (get? "MACROS_FILENAME")
  basePath := (pathIn? (get? "MACROS_BASE_PATH")).getD cwd
  bootstrapModules := splitList (get? "MACROS_BOOTSTRAP")
  logDir := pathIn? (get? "MACROS_LOG_DIR")
  verbose := isTrueWord ((get? "VERBOSE").getD "false")

theorem ofEnvironment_eq (cwd : Path) (environment : Table String String) :
    ofEnvironment cwd environment = ofVariables cwd environment.get? := rfl

/-- The file that is loaded, given the one that is asked for. -/
def envFileOf (envFile : Option Path) (h : Host) : Path := envFile.getD (defaultEnvFile h.files.cwd)

theorem ofHost_of_isLoadable {envFile : Option Path} {h : Host}
    (hl : IsLoadable (envFileOf envFile h) h) :
    (ofHost envFile h).1 = .ok (ofVariables h.files.cwd (valueOf? (envFileOf envFile h) h)) := by
  generalize hpath : envFileOf envFile h = path at hl ⊢
  obtain ⟨node, hnode⟩ : ∃ node, h.files.probe path = .ok node := by
    have htold := hl.told
    cases hprobe : h.files.probe path with
    | ok node => exact ⟨node, rfl⟩
    | error f => simp [hprobe, Except.isOk, Except.toBool] at htold
  change envFile.getD _ = path at hpath
  rw [ofHost, hpath, Files.contains, hnode]
  cases node with
  | none =>
    have hnothing : valueOf? path h = h.environment.get? := by
      funext name
      rw [valueOf?, fileVariables, hnode]
      exact Option.or_none
    rw [hnothing]
    rfl
  | some node =>
    obtain ⟨h', hload, hcwd, hget⟩ := load_of_isLoadable hl hnode
    rw [← funext hget, ← hcwd, ← ofEnvironment_eq]
    change ((load path h).1.map fun () => _) = _
    rw [hload]
    rfl

theorem ofArguments_fst {a : Arguments} {h : Host} (hfile : a.envFile ≠ .emptied) :
    (ofArguments a h).1 =
      (ofHost a.envFile.value? h).1.map (override (filenameOf a) a.logDir.value? a.verbose) := by
  rw [ofArguments, if_neg hfile]

end Config

namespace CommandLine
open Config EnvFile

/-- The path that a flag names, where an empty value counts as none. -/
def meant? (settings : List Setting) (f : Flag) : Option Path :=
  ((lastValue? f settings).filter (!·.isEmpty)).map Path.ofText

/-- The path that a flag is taken to name. An empty value counts as none for the file to write, but for
the environment file and for the directory of logs it is the working directory. -/
def taken? (settings : List Setting) : Flag → Option Path
  | .filename => meant? settings .filename
  | f => (lastValue? f settings).map Path.ofText

/-- The configuration that flags, variables and an environment file give together. -/
def merged (path? : Flag → Option Path) (isVerbose : Bool) (h : Host) : Config :=
  let get? := valueOf? (envFileOf (path? .envFile) h) h
  { ofVariables h.files.cwd get? with
    filename := (path? .filename).or (pathIn? (get? "MACROS_FILENAME"))
    logDir := (path? .logDir).or (pathIn? (get? "MACROS_LOG_DIR"))
    verbose := isVerbose || isTrueWord ((get? "VERBOSE").getD "false") }

theorem override_eq_merged (path? : Flag → Option Path) (isVerbose : Bool) (h : Host) :
    (ofVariables h.files.cwd (valueOf? (envFileOf (path? .envFile) h) h)).override
      (path? .filename) (path? .logDir) isVerbose = merged path? isVerbose h := by
  simp only [merged, override, ofVariables]

/-- The configuration that a command line comes to on a host, if it comes to one. -/
def configured? (words : List String) (h : Host) : Option Config :=
  match Arguments.ofWords words with
  | .accepted a => (Config.ofArguments a h).1.toOption
  | _ => none

variable {settings : List Setting} {h : Host}

/-- Only an empty value can be taken for what it does not mean. -/
theorem meant?_eq_taken? {f : Flag} (hne : lastValue? f settings ≠ some "") :
    meant? settings f = taken? settings f := by
  have hfilter : (lastValue? f settings).filter (!·.isEmpty) = lastValue? f settings := by
    cases hvalue : lastValue? f settings with
    | none => rfl
    | some v =>
      have hv : v ≠ "" := fun heq => hne (heq ▸ hvalue)
      simp [Option.filter, hv]
  cases f <;> simp only [taken?, meant?, hfilter]

/-- Every command line of flags comes to the merge of its layers where its environment file can be
loaded, with each empty value as it is taken. Without an empty environment file and an empty directory of
logs, an empty value counts as none. -/
theorem configured?_eq_merged (hs : ∀ s ∈ settings, s.IsWritten)
    (hl : IsLoadable (envFileOf (taken? settings .envFile) h) h) :
    configured? (settings.flatMap Setting.words) h =
      some (merged (taken? settings) (settings.any (·.isSwitch)) h) ∧
    (lastValue? .envFile settings ≠ some "" → lastValue? .logDir settings ≠ some "" →
      configured? (settings.flatMap Setting.words) h =
        some (merged (meant? settings) (settings.any (·.isSwitch)) h)) := by
  have hdashes := lastValue?_ne_dashes hs
  have htaken : configured? (settings.flatMap Setting.words) h =
      some (merged (taken? settings) (settings.any (·.isSwitch)) h) := by
    have hhost : (ofHost ((lastValue? .envFile settings).map Path.ofText) h).1 = _ :=
      ofHost_of_isLoadable hl
    rw [configured?, ofWords_settings hs, foldl_apply]
    dsimp only
    rw [ofArguments_fst (givenOf_ne_emptied Path.ofText (hdashes .envFile)), filenameOf]
    simp only [value?_givenOf _ (hdashes _), Option.map_id, hhost]
    exact congrArg some (override_eq_merged (taken? settings) _ h)
  refine ⟨htaken, fun hfile hdirectory => ?_⟩
  rw [htaken, merged, merged, meant?_eq_taken? hfile, meant?_eq_taken? hdirectory]
  rfl

/-- A host with two environment files. -/
def kiosk : Host where
  files :=
    { cwd := { root := "/", parts := ["kiosk"] }
      nodes :=
        [(["kiosk"], .directory),
         (["kiosk", ".env"], .file "MACROS_FILENAME=stub.pyi\n"),
         (["kiosk", "other.env"], .file "MACROS_FILENAME=other.pyi\nMACROS_LOG_DIR=logs\nVERBOSE=Yes\n")] }
  environment := [("MACROS_LOG_DIR", " "), ("MACROS_CLASSES", "app:Till")]
  readings := default

/-- An empty file name counts as none, and a variable that is set goes before the file though it is
blank. -/
theorem kiosk_configured :
    let settings := [.joined .filename "", .apart .envFile "other.env"]
    (∀ s ∈ settings, s.IsWritten) ∧ IsLoadable (envFileOf (taken? settings .envFile) kiosk) kiosk ∧
      configured? ["--filename=", "--env-file", "other.env"] kiosk = some
        { classes := ["app:Till"], filename := some { parts := ["other.pyi"] }
          basePath := { root := "/", parts := ["kiosk"] }, verbose := true } := by
  intro settings
  have hs : ∀ s ∈ settings, s.IsWritten := by decide
  have hl : IsLoadable (envFileOf (taken? settings .envFile) kiosk) kiosk :=
    ⟨by decide +kernel, by decide +kernel, by decide +kernel⟩
  refine ⟨hs, hl, ?_⟩
  have hmerged := (configured?_eq_merged hs hl).2 (by decide) (by decide)
  exact hmerged.trans (by decide +kernel)

/-- An empty directory of logs is the working directory, and with an empty environment file none is
loaded; without these flags there is no directory, and the file is loaded. -/
theorem empty_values_count :
    (configured? ["--log-dir="] kiosk).map (fun c => (c.filename, c.logDir)) =
        some (some { parts := ["stub.pyi"] }, some {}) ∧
      (configured? ["--env-file="] kiosk).map (fun c => (c.filename, c.logDir)) = some (none, none) ∧
      (configured? [] kiosk).map (fun c => (c.filename, c.logDir)) =
        some (some { parts := ["stub.pyi"] }, none) := by
  decide +kernel

end CommandLine
end MacroStubs
