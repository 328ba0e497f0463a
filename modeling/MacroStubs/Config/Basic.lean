import MacroStubs.Config.Arguments
import MacroStubs.Config.EnvFile

/-! # Configuration

What a run is told to do: by flags, by the environment, and by an environment file where the
environment is silent.
-/

namespace MacroStubs

structure Config where
  classes : List String := []
  filename : Option Path := none
  basePath : Path
  bootstrapModules : List String := []
  logDir : Option Path := none
  verbose : Bool := false
  deriving DecidableEq, Repr, Inhabited

namespace Config
open Text

/-- The items between commas, without blanks around them and without blank ones. -/
def splitList (value : Option String) : List String :=
  match value with
  | none => []
  | some s => ((pieces ',' s).map trim).filter (!·.isEmpty)

/-- The path that a variable names, none for a blank one. -/
def pathOf? (environment : Table String String) (name : String) : Option Path :=
  let s := trim ((environment.get? name).getD "")
  if s.isEmpty then none else some (Path.ofText s)

def isTrueWord (s : String) : Bool := ["true", "1", "yes"].contains s.toLower

/-- The configuration that an environment gives, seen from a working directory. -/
def ofEnvironment (cwd : Path) (environment : Table String String) : Config where
  classes := splitList (environment.get? "MACROS_CLASSES")
  filename := pathOf? environment "MACROS_FILENAME"
  basePath := (pathOf? environment "MACROS_BASE_PATH").getD cwd
  bootstrapModules := splitList (environment.get? "MACROS_BOOTSTRAP")
  logDir := pathOf? environment "MACROS_LOG_DIR"
  verbose := isTrueWord ((environment.get? "VERBOSE").getD "false")

/-- The environment file that is loaded if no other is named. -/
def defaultEnvFile (cwd : Path) : Path := cwd.join { parts := [".env"] }

/-- Loads the environment file, if there is one, and reads the environment. -/
def ofHost (envFile : Option Path) (h : Host) : Except Failure Config × Host :=
  let path := envFile.getD (defaultEnvFile h.files.cwd)
  let (result, h) := match h.files.contains path with
    | .ok true => EnvFile.load path h
    | .ok false => (.ok (), h)
    | .error f => (.error f, h)
  (result.map fun () => ofEnvironment h.files.cwd h.environment, h)

/-- What flags say goes before the environment. -/
def override (filename logDir : Option Path) (verbose : Bool) (c : Config) : Config :=
  { c with
    filename := filename.or c.filename
    logDir := logDir.or c.logDir
    verbose := verbose || c.verbose }

/-- The file that the flags name; an empty name counts as none. -/
def filenameOf (a : Arguments) : Option Path :=
  (a.filename.value?.filter (!·.isEmpty)).map Path.ofText

/-- The configuration that flags, environment and environment file give together. No environment file
can be found where the flag is emptied. -/
def ofArguments (a : Arguments) (h : Host) : Except Failure Config × Host :=
  if a.envFile = .emptied then (.error (.noAttribute "list" "exists"), h)
  else
    let (result, h) := ofHost a.envFile.value? h
    (result.map (override (filenameOf a) a.logDir.value? a.verbose), h)

/-- The classes that every run scans, then the configured ones. -/
def allClasses (c : Config) : List String :=
  "macro_stubgen.macroable.Macroable" :: c.classes

/-- Fails unless there is a file to write and a directory to start from. -/
def validate (files : Files) (c : Config) : Except Failure Unit := do
  if c.filename.isNone then throw .noFilename
  if !(← files.isDirectory c.basePath) then throw (.baseNotDirectory c.basePath.text)

def homeOf (environment : Table String String) : String :=
  (environment.get? "HOME").getD "/root"

/-- The file to write. -/
def outputPath (environment : Table String String) (c : Config) : Except Failure Path :=
  match c.filename with
  | none => throw .noFilename
  | some filename => Path.resolveOutput (homeOf environment) c.basePath filename

end Config
end MacroStubs
