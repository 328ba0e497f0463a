import MacroStubs.Macro.Extraction
import MacroStubs.Macro.Resolution
import MacroStubs.Progress
import MacroStubs.Stub.Declaration

/-! # Generators

A generator resolves the classes it was given, extracts their macros and writes their stub. All
macros are extracted before anything is written, so a failure until then leaves the destination
alone.
-/

namespace MacroStubs

structure Generator where
  classes : List String
  /-- The counts of the last scan that succeeded. -/
  progress : Option Progress := none
  deriving Inhabited

namespace Generator

variable (w : World) (r : Reach) (importModule : String → Run Unit)

def reporter : String := "macro_stubgen.application.generators.macro_stub_generator"

def elapsed : Run String := do pure (← get).host.readings.elapsed

/-- Extracts the macros of one class and counts them. -/
def scanClass (identifier : String) (cls : Value) (p : Progress) :
    Run (Progress × Option ClassMacros) := do
  let (p, stage, message) := p.enterClass identifier
  Run.debug reporter message
  let found ← Extraction.extract w r Extraction.storageFields cls
  let p := match found with
    | none => p.countSkipped 1
    | some macros => p.countMacros macros.entries.length
  let (p, report) := p.leave stage none (← elapsed)
  match report with
  | some (level, message) => Run.report level reporter message
  | none => pure ()
  pure (p, found)

/-- Extracts the macros of classes in their order. -/
def scanAll : List (String × Value) → Progress → Run (Progress × List ClassMacros)
  | [], p => pure (p, [])
  | (identifier, cls) :: rest, p => do
    let (p, found) ← scanClass w r identifier cls p
    let (p, later) ← scanAll rest p
    pure (p, found.toList ++ later)

/-- Resolves all identifiers, then scans the classes. -/
def scan (identifiers : List String) (p : Progress) : Run (Progress × List ClassMacros) := do
  let found ← Resolution.ofIdentifiers r importModule identifiers
  scanAll w r found.resolved
    ((p.countSkipped found.unresolved.length).countDuplicates found.duplicates.length)

/-- What a scan finds, with its counts. -/
def collected (identifiers : List String) : Run (Progress × List ClassMacros) := do
  let (p, stage, message) := Progress.enterOperation "macro discovery" {}
  Run.debug reporter message
  match ← Run.attempt (scan w r importModule identifiers p) with
  | .error f => do
    match (Progress.leave stage (some f) (← elapsed) p).2 with
    | some (level, message) => Run.report level reporter message
    | none => pure ()
    throw f
  | .ok (p, found) => do
    let (p, report) := p.leave stage none (← elapsed)
    match report with
    | some (level, message) => Run.report level reporter message
    | none => pure ()
    Run.debug reporter (p.summary (← elapsed))
    Run.debug reporter (Progress.memoryReport (.ok (← get).host.readings.memory))
    pure (p, found)

/-- Scans the classes of a generator, which keeps the counts if the scan succeeds. -/
def collect (g : Generator) (σ : State) : (Except Failure (List ClassMacros) × Generator) × State :=
  match (collected w r importModule g.classes).run σ with
  | (.ok (p, found), σ) => ((.ok found, { g with progress := some p }), σ)
  | (.error f, σ) => ((.error f, g), σ)

/-- Writes the stub of macros in the present state: what came of it, and the text so far. -/
def emit (found : List ClassMacros) : Run (Except Failure Unit × String) := do
  let σ ← get
  let classes := found.map (·.reflect w r σ)
  let (result, sheet) := (Declaration.writeStub (labels w r σ) classes).run {}
  Run.onHost (·.logAll sheet.notes)
  pure (result, sheet.text)

/-- The counts, the text and what came of writing it. -/
def render (identifiers : List String) : Run (Progress × Except Failure Unit × String) := do
  let (p, found) ← collected w r importModule identifiers
  let (result, text) ← emit w r found
  pure (p, result, text)

/-- Replaces a file by a text. -/
def writeFile (path : Path) (text : String) : Run Unit := do
  let files ← Run.read fun σ => σ.host.files.write path text
  Run.onHost fun h => { h with files }

/-- Writes the stub to a file. -/
def write (identifiers : List String) (path : Path) : Run Path :=
  Run.timed reporter "MacroStubGenerator.write" do
    let (_, found) ← collected w r importModule identifiers
    writeFile path ""
    let (result, text) ← emit w r found
    writeFile path text
    Run.ofExcept result
    Run.debug reporter s!"Wrote {found.length} class block(s) to {path.text}"
    pure path

end Generator
end MacroStubs
