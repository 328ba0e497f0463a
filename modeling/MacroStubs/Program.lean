import MacroStubs.Bootstrap
import MacroStubs.Config.Basic
import MacroStubs.Generator

/-! # Program

A whole run: reading the command line, configuring, setting up the logging, importing the modules
that register macros, and writing the stub.
-/

namespace MacroStubs

/-- How a run ends that is not interrupted. -/
inductive Exit where
  | code (n : Nat)
  /-- An exit that application code asked for. -/
  | asked (text : String)
  deriving DecidableEq, Repr, Inhabited

namespace Program

variable (w : World) (importModule : String → Run Unit)

def reporter : String := "macro_stubgen.main"

def print (text : String) : Run Unit := Run.onHost fun h => { h with stdout := h.stdout ++ text }

def printError (text : String) : Run Unit :=
  Run.onHost fun h => { h with stderr := h.stderr ++ text }

/-- Runs a step of the host that may fail. -/
def ofHost {α : Type} (f : Host → Except Failure α × Host) : Run α := fun σ =>
  let (result, h) := f σ.host
  (result, { σ with host := h })

/-- Configures a run and checks the configuration. -/
def configure (a : Arguments) : Run Config := do
  let c ← ofHost (Config.ofArguments a)
  Run.read fun σ => c.validate σ.host.files
  pure c

/-- Imports the configured modules and writes the stub. -/
def generate (c : Config) : Run Path :=
  Run.timed reporter "generate_stubs" do
    let path ← Run.read fun σ => c.outputPath σ.host.environment
    Run.debug reporter ("Base path: " ++ c.basePath.text)
    Run.debug reporter ("Output file: " ++ path.text)
    Bootstrap.run importModule c.bootstrapModules (some c.basePath)
    Generator.write w (Reach.of w) importModule c.allClasses path

/-- A run with a configuration that passed its check. No directory of logs can be made where the flag
is emptied. -/
def runConfigured (a : Arguments) (c : Config) : Run Exit := do
  if a.logDir = .emptied then throw (.noAttribute "list" "mkdir")
  ofHost (Host.setUp c.logDir c.verbose)
  let path ← generate w importModule c
  Run.report .info reporter (path.text ++ " has been successfully generated.")
  pure (.code 0)

/-- A run with accepted arguments. A configuration that cannot be used ends it with status 1. -/
def runWith (a : Arguments) : Run Exit := do
  match ← Run.attempt (configure a) with
  | .ok c => runConfigured w importModule a c
  | .error f =>
    if f.isConfiguration then do
      printError ("Configuration error: " ++ f.message ++ "\n")
      pure (.code 1)
    else throw f

/-- A run with a command line. -/
def main (words : List String) : Run Exit :=
  match Arguments.ofWords words with
  | .accepted a => runWith w importModule a
  | .helpWanted => do
    print helpText
    pure (.code 0)
  | .refused fault => do
    printError fault.report
    pure (.code 2)

/-- How a run ends; an exit that application code asks for is an end too. -/
def run (words : List String) : Run Exit := do
  match ← Run.attempt (main w importModule words) with
  | .ok e => pure e
  | .error f => if f.isExit then pure (.asked f.message) else throw f

end Program
end MacroStubs
