import MacroStubs.Host.Files
import MacroStubs.Record

/-! # Logging

A host carries records to its handlers: those that others added and those that the program's own
logging setup added, which it remembers. Setting up adds a console handler and, given a directory, a
file handler; resetting removes exactly these.
-/

namespace MacroStubs

/-- Where a handler writes. -/
inductive Sink where
  /-- A handler of someone else. -/
  | foreign
  /-- The console, from a level on. -/
  | console (threshold : Level)
  | file (path : Path)
  deriving DecidableEq, Repr, Inhabited

/-- A handler, told from others by its number. -/
structure Handler where
  number : Nat
  sink : Sink
  deriving DecidableEq, Repr, Inhabited

/-- What stands for readings of clock, memory and addresses. -/
structure Readings where
  /-- The time in the name of a log file. -/
  stamp : String
  /-- The time in front of a line of a log file. -/
  time : String
  /-- Seconds that something took. -/
  elapsed : String
  /-- Megabytes in use. -/
  memory : String
  address : String
  deriving Inhabited

structure Host where
  files : Files
  environment : Table String String := []
  /-- All records so far, whether a handler took them or not. -/
  journal : List Record := []
  threshold : Level := .warning
  handlers : List Handler := []
  nextHandler : Nat := 0
  /-- The handlers that the program's logging setup added. -/
  own : List Handler := []
  logFile : Option Path := none
  initialized : Bool := false
  stdout : String := ""
  stderr : String := ""
  readings : Readings
  deriving Inhabited

namespace Host

def deliverTo (r : Record) (h : Host) (handler : Handler) : Host :=
  match handler.sink with
  | .foreign => h
  | .console threshold =>
    if threshold.rank ≤ r.level.rank then
      { h with stdout := h.stdout ++ r.level.name ++ ": " ++ r.message ++ "\n" }
    else h
  | .file path =>
    let line := h.readings.time ++ " - " ++ r.reporter ++ " - " ++ r.level.name ++ " - " ++
      r.message ++ "\n"
    match h.files.append path line with
    | .ok files => { h with files }
    | .error _ => h

/-- Hands a record to every handler. Without any, warnings and errors go to the error output. -/
def deliver (r : Record) (h : Host) : Host :=
  if r.level.rank < h.threshold.rank then h
  else if h.handlers.isEmpty then
    if Level.warning.rank ≤ r.level.rank then { h with stderr := h.stderr ++ r.message ++ "\n" }
    else h
  else h.handlers.foldl (deliverTo r) h

def log (r : Record) (h : Host) : Host :=
  deliver r { h with journal := h.journal ++ [r] }

def logAll (rs : List Record) (h : Host) : Host := rs.foldl (fun h r => h.log r) h

def debug (reporter message : String) (h : Host) : Host :=
  h.log { level := .debug, reporter, message }

def addHandler (sink : Sink) (h : Host) : Host × Handler :=
  let handler := { number := h.nextHandler, sink }
  ({ h with handlers := h.handlers ++ [handler], nextHandler := h.nextHandler + 1 }, handler)

def addForeign (h : Host) : Host := (h.addHandler .foreign).1

/-- Adds a handler that the setup remembers. -/
def addOwn (sink : Sink) (h : Host) : Host :=
  let (h, handler) := h.addHandler sink
  { h with own := h.own ++ [handler] }

def removeOwn (h : Host) : Host :=
  { h with handlers := h.handlers.filter fun x => !h.own.contains x, own := [] }

def loggingReporter : String := "macro_stubgen.infrastructure.logging.logger_setup"

def pathText : Option Path → String
  | some p => p.text
  | none => "None"

def truthText (b : Bool) : String := if b then "True" else "False"

/-- Opens a log file in a directory, which is made if it is missing. -/
def addLogFile (directory : Path) (h : Host) : Except Failure Unit × Host :=
  match h.files.makeDirectories directory with
  | .error f => (.error f, h)
  | .ok files =>
    let path := directory.join { parts := ["macro_stubgen_" ++ h.readings.stamp ++ ".log"] }
    let h := { h with files, logFile := some path }
    match h.files.append path "" with
    | .error f => (.error f, h)
    | .ok files => (.ok (), { h with files }.addOwn (.file path))

/-- Opens the log file if there is to be one. -/
def addLogFile? (directory : Option Path) (h : Host) : Except Failure Unit × Host :=
  match directory with
  | none => (.ok (), h)
  | some d => h.addLogFile d

/-- Sets the logging up unless it is. Handlers of an attempt that failed are removed first. -/
def setUp (directory : Option Path) (verbose : Bool) (h : Host) : Except Failure Unit × Host :=
  if h.initialized then (.ok (), h)
  else
    let h := { h with threshold := .debug }.removeOwn
    let h := h.addOwn (.console (if verbose then .debug else .info))
    match h.addLogFile? directory with
    | (.error f, h) => (.error f, h)
    | (.ok (), h) =>
      let h := { h with initialized := true }
      let h := h.debug loggingReporter ("Logging initialized. Log file: " ++ pathText h.logFile)
      (.ok (), h.debug loggingReporter ("Verbose mode: " ++ truthText verbose))

/-- Removes the handlers of the setup, so that it can be done anew. -/
def reset (h : Host) : Host :=
  { h.removeOwn with logFile := none, initialized := false }

end Host
end MacroStubs
