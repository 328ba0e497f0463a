import MacroStubs.Program
import MacroStubs.Session
import MacroStubs.World.Build
import Std.Time

/-! # Command line

Runs the program on the files, the environment and the clock of a machine. What a run looks at is
read before it, and what it changed is written back after it.
-/

namespace MacroStubs.Main

/-- What lies at a place of the machine; what cannot be read counts as missing. -/
def look (place : String) : IO (Option Node) := do
  try
    let content ← IO.FS.readFile place
    pure (some (.file content))
  catch
    | .inappropriateType .. => pure (some .directory)
    | _ => pure none

def place (names : List String) : String := "/" ++ "/".intercalate names

/-- Reads what lies along a path. -/
def observe (p : Path) (fs : Files) : IO Files := do
  let parts := (fs.cwd.join p).parts
  let mut fs := fs
  for n in List.range parts.length do
    let names := Path.normalParts (parts.take (n + 1))
    match ← look (place names) with
    | some node => fs := { fs with nodes := fs.nodes.put names node }
    | none => pure ()
  pure fs

/-- The variables of the machine. -/
def environment : IO (Table String String) := do
  try
    let text ← IO.FS.readFile "/proc/self/environ"
    pure (((text.splitOn "\x00").filterMap Arguments.parted?).map fun (name, v) => (name, v))
  catch _ => pure []

/-- The megabytes in use, with one decimal. -/
def memory : IO String := do
  try
    let text ← IO.FS.readFile "/proc/self/statm"
    let pages := ((text.splitOn " ")[1]?.bind String.toNat?).getD 0
    let tenths := pages * 4096 * 10 / 1048576
    pure s!"{tenths / 10}.{tenths % 10}"
  catch _ => pure "0.0"

/-- The time of the machine, the universal time if its zone is not known. -/
def time : IO Std.Time.PlainDateTime := do
  try Std.Time.PlainDateTime.now
  catch _ => pure (.ofWallTime ((← Std.Time.Timestamp.now).toWallTime .zero))

def readings : IO Readings := do
  let now ← time
  pure {
    stamp := now.format "uuuuMMdd_HHmmss"
    time := now.format "uuuu-MM-dd HH:mm:ss"
    elapsed := "0.000"
    memory := ← memory
    address := "0x0" }

/-- The files that a run with some arguments looks at. -/
def observeRun (a : Arguments) (h : Host) : IO Host := do
  let envFile := a.envFile.value?.getD (Config.defaultEnvFile h.files.cwd)
  let h := { h with files := ← observe envFile (← observe h.files.cwd h.files) }
  let (result, configured) := Config.ofArguments a h
  match result with
  | .error _ => pure h
  | .ok c =>
    let output := (c.outputPath configured.environment).toOption
    let mut files := h.files
    for p in [some c.basePath, output, c.logDir].filterMap id do
      files ← observe p files
    pure { h with files }

/-- The machine as a run with a command line sees it. -/
def host (words : List String) : IO Host := do
  let cwd := Path.ofText (← IO.currentDir).toString
  let h : Host :=
    { files := { cwd }, environment := ← environment, readings := ← readings }
  match Arguments.ofWords words with
  | .accepted a => observeRun a h
  | _ => pure h

/-- Writes what has changed. -/
def writeBack (before after : Files) : IO Unit := do
  for (names, node) in after.nodes do
    if before.nodes.get? names != some node then
      match node with
      | .directory => IO.FS.createDirAll (place names)
      | .file content => IO.FS.writeFile (place names) content

end MacroStubs.Main

open MacroStubs in
/-- Runs a command line. -/
def main (words : List String) : IO UInt32 := do
  let before ← Main.host words
  let s := Site.empty before
  let (result, σ) := (Program.run s.world (importModule s.world) words).run s.state
  Main.writeBack before.files σ.host.files
  IO.print σ.host.stdout
  IO.eprint σ.host.stderr
  match result with
  | .ok (.code n) => pure n.toUInt32
  | .ok (.asked text) => do
    IO.eprintln text
    pure 1
  | .error f => do
    IO.eprintln (f.kind ++ ": " ++ f.message)
    pure 1
