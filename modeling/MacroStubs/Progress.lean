import MacroStubs.Failure
import MacroStubs.Record

/-! # Progress

Counts of what a scan met, and the operations that are under way. Entering and leaving an operation
or a class is reported; leaving by a failure ends the operation too.
-/

namespace MacroStubs

structure Progress where
  classes : Nat := 0
  skipped : Nat := 0
  duplicates : Nat := 0
  macros : Nat := 0
  /-- The operations under way, the outermost first. -/
  operations : List String := []
  deriving DecidableEq, Repr, Inhabited

/-- What a scan is within: an operation, or a class with the count of macros before it. -/
inductive Stage where
  | operation (name : String)
  | scanning (identifier : String) (before : Nat)
  deriving DecidableEq, Repr, Inhabited

namespace Progress

def countMacros (n : Nat) (p : Progress) : Progress := { p with macros := p.macros + n }

def countSkipped (n : Nat) (p : Progress) : Progress := { p with skipped := p.skipped + n }

def countDuplicates (n : Nat) (p : Progress) : Progress := { p with duplicates := p.duplicates + n }

/-- Enters an operation: the stage to leave later and what to report. -/
def enterOperation (name : String) (p : Progress) : Progress × Stage × String :=
  ({ p with operations := p.operations ++ [name] }, .operation name,
    "Starting operation: " ++ name)

def enterClass (identifier : String) (p : Progress) : Progress × Stage × String :=
  let next := { p with classes := p.classes + 1 }
  (next, .scanning identifier p.macros, s!"Scanning class #{next.classes}: {identifier}")

/-- Leaves a stage, by a failure or normally: what to report, if anything. -/
def leave (stage : Stage) (failure : Option Failure) (elapsed : String) (p : Progress) :
    Progress × Option (Level × String) :=
  match stage, failure with
  | .operation name, none =>
    ({ p with operations := p.operations.dropLast },
      some (.debug, s!"Completed operation: {name} in {elapsed}s"))
  | .operation name, some f =>
    ({ p with operations := p.operations.dropLast },
      if f.isHandled then
        some (.error, s!"Failed operation: {name} after {elapsed}s: {f.message}")
      else none)
  | .scanning identifier before, none =>
    (p, some (.debug, s!"Class #{p.classes} {identifier}: {p.macros - before} macro(s)"))
  | .scanning .., some _ => (p, none)

def summary (elapsed : String) (p : Progress) : String :=
  s!"Scan complete: {p.classes} classes ({p.skipped} skipped, {p.duplicates} duplicate), " ++
    s!"{p.macros} macros in {elapsed}s"

/-- What is reported about the memory in use, or why it is not known. -/
def memoryReport (reading : Except String String) : String :=
  match reading with
  | .ok megabytes => s!"Memory usage: {megabytes} MB"
  | .error reason => "Could not get memory usage: " ++ reason

end Progress
end MacroStubs
