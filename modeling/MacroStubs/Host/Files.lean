import MacroStubs.Host.Path
import MacroStubs.Table

/-! # Files

A tree of directories and files, each under the names that lead to it from the root. Every operation
takes a path as it was given, seen from the working directory, and its failures name that path.
-/

namespace MacroStubs

inductive Node where
  | directory
  | file (content : String)
  deriving DecidableEq, Repr, Inhabited

/-- What lies under which names; the root itself is a directory without an entry. -/
structure Files where
  cwd : Path
  nodes : Table (List String) Node := []
  deriving Inhabited

namespace Files

def node? (fs : Files) (names : List String) : Option Node :=
  if names.isEmpty then some .directory else fs.nodes.get? names

/-- Why the names of a path lead nowhere. -/
inductive Lost where
  | missing
  | notDirectory
  | nameTooLong

/-- How many bytes a name may have. -/
def maxNameBytes : Nat := 255

/-- Where names lead from a directory; the last one need not exist. -/
def walk (fs : Files) (here : List String) : List String → Except Lost (List String)
  | [] => pure here
  | name :: rest =>
    match fs.node? here with
    | none => throw .missing
    | some (.file _) => throw .notDirectory
    | some .directory =>
      if maxNameBytes < name.utf8ByteSize then throw .nameTooLong
      else if name = ".." then walk fs here.dropLast rest
      else walk fs (here ++ [name]) rest

/-- How many bytes a path may have. -/
def maxPathBytes : Nat := 4095

def locate (fs : Files) (p : Path) : Except Lost (List String) :=
  if maxPathBytes < p.text.utf8ByteSize then throw .nameTooLong
  else walk fs [] (fs.cwd.join p).parts

def find? (fs : Files) (p : Path) : Option Node :=
  match fs.locate p with
  | .ok names => fs.node? names
  | .error _ => none

def hasNull (p : Path) : Bool := p.text.toList.contains '\x00'

/-- What lies at a path, as far as one can ask: a name that is too long is a failure, one with a null
leads nowhere. -/
def probe (fs : Files) (p : Path) : Except Failure (Option Node) :=
  if hasNull p then pure none
  else
    match fs.locate p with
    | .ok names => pure (fs.node? names)
    | .error .nameTooLong => throw (.nameTooLong p.text)
    | .error _ => pure none

def contains (fs : Files) (p : Path) : Except Failure Bool := do
  pure (← fs.probe p).isSome

def isDirectory (fs : Files) (p : Path) : Except Failure Bool := do
  pure ((← fs.probe p) == some .directory)

def lost (p : Path) : Lost → Failure
  | .missing => .fileMissing p.text
  | .notDirectory => .pathNotDirectory p.text
  | .nameTooLong => .nameTooLong p.text

/-- Replaces what a path names by a file. -/
def write (fs : Files) (p : Path) (content : String) : Except Failure Files := do
  if hasNull p then throw .embeddedNull
  match fs.locate p with
  | .error e => throw (lost p e)
  | .ok names =>
    match fs.node? names with
    | some .directory => throw (.pathIsDirectory p.text)
    | some (.file _) => pure { fs with nodes := fs.nodes.put names (.file content) }
    | none =>
      match fs.node? names.dropLast with
      | some .directory => pure { fs with nodes := fs.nodes.put names (.file content) }
      | some (.file _) => throw (.pathNotDirectory p.text)
      | none => throw (.fileMissing p.text)

/-- Puts a text behind the content of a file, which is made if it is missing. -/
def append (fs : Files) (p : Path) (text : String) : Except Failure Files :=
  match fs.find? p with
  | some (.file content) => fs.write p (content ++ text)
  | _ => fs.write p text

/-- Makes one directory in a directory that is there. -/
def makeOne (fs : Files) (p : Path) : Except Failure Files := do
  if hasNull p then throw .embeddedNull
  match fs.locate p with
  | .error e => throw (lost p e)
  | .ok names =>
    match fs.node? names with
    | some _ => throw (.fileExists p.text)
    | none =>
      match fs.node? names.dropLast with
      | some .directory => pure { fs with nodes := fs.nodes.put names .directory }
      | some (.file _) => throw (.pathNotDirectory p.text)
      | none => throw (.fileMissing p.text)

/-- Makes a directory that may be there already, with at most `n` missing ones above it. -/
def makeAll (fs : Files) (p : Path) : Nat → Except Failure Files
  | 0 => throw (.fileMissing p.text)
  | n + 1 =>
    match fs.makeOne p with
    | .ok fs => pure fs
    | .error (.fileMissing path) =>
      if p.parts.isEmpty then throw (.fileMissing path)
      else do
        let fs ← makeAll fs p.parent n
        match fs.makeOne p with
        | .ok fs => pure fs
        | .error f => if fs.find? p = some .directory then pure fs else throw f
    | .error f => if fs.find? p = some .directory then pure fs else throw f

/-- Makes a directory and those above it. -/
def makeDirectories (fs : Files) (p : Path) : Except Failure Files :=
  fs.makeAll p (p.parts.length + 1)

end Files
end MacroStubs
