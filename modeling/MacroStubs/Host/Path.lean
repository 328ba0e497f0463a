import MacroStubs.Failure

/-! # Paths

A path is a root, which a relative path lacks, and the names along it. Empty names and single dots
leave no trace in a path; two dots do. Exactly two leading slashes are a root of their own.
-/

namespace MacroStubs

structure Path where
  root : String := ""
  parts : List String := []
  deriving DecidableEq, Repr, Inhabited

namespace Path
open Text

def rootOf (cs : List Char) : String :=
  match (cs.takeWhile (· = '/')).length with
  | 0 => ""
  | 2 => "//"
  | _ => "/"

def partsOf (s : String) : List String :=
  (pieces '/' s).filter fun p => !(p = "" ∨ p = ".")

def ofText (s : String) : Path := { root := rootOf s.toList, parts := partsOf s }

def text (p : Path) : String :=
  if p.root = "" ∧ p.parts = [] then "." else p.root ++ "/".intercalate p.parts

def isAbsolute (p : Path) : Bool := p.root != ""

/-- A path seen from another one; an absolute path stays as it is. -/
def join (base p : Path) : Path :=
  if p.isAbsolute then p else { base with parts := base.parts ++ p.parts }

def parent (p : Path) : Path := { p with parts := p.parts.dropLast }

/-- The home directory that a first name with a tilde stands for, if anyone knows it. One that
begins with a tilde itself stands for nothing. -/
def home? (home : String) (name : String) : Option String :=
  if name = "~" then
    let trimmed := String.ofList (dropEndWhile (· = '/') home.toList)
    if beginsWith trimmed "~" then none
    else some (if trimmed = "" then "/" else trimmed)
  else if name = "~root" then some "/root"
  else none

/-- A leading tilde replaced by the home directory. -/
def expandUser (home : String) (p : Path) : Except Failure Path :=
  match p.isAbsolute, p.parts with
  | false, first :: rest =>
    if first.toList.head? = some '~' then
      match home? home first with
      | some h => pure { ofText h with parts := partsOf h ++ rest }
      | none => throw .noHomeDirectory
    else pure p
  | _, _ => pure p

/-- Where an output file goes: beside the base path unless its path is absolute. -/
def resolveOutput (home : String) (base filename : Path) : Except Failure Path := do
  pure (base.join (← filename.expandUser home))

/-- The names along an absolute path once each pair of dots has left its directory. -/
def normalParts (parts : List String) : List String :=
  parts.foldl (fun done p => if p = ".." then done.dropLast else done ++ [p]) []

/-- The path from the root without dots, seen from a working directory. -/
def resolve (cwd p : Path) : Path :=
  let whole := cwd.join p
  { root := "/", parts := normalParts whole.parts }

end Path
end MacroStubs
