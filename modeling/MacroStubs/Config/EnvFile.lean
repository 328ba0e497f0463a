import MacroStubs.Host.Logging
import MacroStubs.Text.Lines

/-! # Environment files

A file of variables, one binding after the other: a name, an equals sign and a value, which may be
quoted. Values may refer to variables. A line that is no binding is left out with a warning. What
the environment holds already stays as it is.
-/

namespace MacroStubs.EnvFile
open Text

/-- Blanks other than line feeds. -/
def isGap (c : Char) : Bool := isBlank c && c != '\n' && c != '\r'

def skipGaps (cs : List Char) : List Char := cs.dropWhile isGap

/-- The characters up to the closing quote, and the rest. A character behind a backslash does not
close. -/
def quotedBody (quote : Char) : List Char → Option (List Char × List Char)
  | [] => none
  | ['\\'] => none
  | '\\' :: c :: rest => (quotedBody quote rest).map fun (body, r) => ('\\' :: c :: body, r)
  | c :: rest =>
    if c = quote then some ([], rest)
    else (quotedBody quote rest).map fun (body, r) => (c :: body, r)

/-- The character that an escape between double quotes denotes. -/
def escaped? (c : Char) : Option Char :=
  if c = '\\' ∨ c = '\'' ∨ c = '"' then some c
  else if c = 'a' then some '\x07'
  else if c = 'b' then some '\x08'
  else if c = 'f' then some '\x0c'
  else if c = 'n' then some '\n'
  else if c = 'r' then some '\r'
  else if c = 't' then some '\t'
  else if c = 'v' then some '\x0b'
  else none

/-- The character that an escape between single quotes denotes. -/
def escapedInSingle? (c : Char) : Option Char :=
  if c = '\\' ∨ c = '\'' then some c else none

/-- A quoted value with its escapes replaced. -/
def unescape (denotes? : Char → Option Char) : List Char → List Char
  | '\\' :: c :: rest =>
    match denotes? c with
    | some d => d :: unescape denotes? rest
    | none => '\\' :: unescape denotes? (c :: rest)
  | c :: rest => c :: unescape denotes? rest
  | [] => []

/-- A value without quotes, up to a comment that follows a blank. -/
def beforeComment : List Char → List Char
  | [] => []
  | c :: rest =>
    if isBlank c && ((c :: rest).dropWhile isBlank).head? == some '#' then []
    else c :: beforeComment rest

def restOfLine (cs : List Char) : List Char × List Char :=
  (cs.takeWhile (· ≠ '\n'), cs.dropWhile (· ≠ '\n'))

/-- The name of a binding and the rest; a comment has none. -/
def key? (cs : List Char) : Option (Option String × List Char) :=
  match cs with
  | '#' :: _ => some (none, cs)
  | '\'' :: rest =>
    let name := rest.takeWhile (· ≠ '\'')
    match name, rest.drop name.length with
    | _ :: _, _ :: r => some (some (String.ofList name), r)
    | _, _ => none
  | cs =>
    let stops := fun c => c == '=' || c == '#' || isBlank c
    match cs.takeWhile (!stops ·) with
    | [] => none
    | name => some (some (String.ofList name), cs.dropWhile (!stops ·))

/-- The value behind an equals sign and the rest. What begins with a number sign behind a blank is a
comment. -/
def value? (behindSign : List Char) : Option (String × List Char) :=
  match skipGaps behindSign with
  | '\'' :: rest =>
    (quotedBody '\'' rest).map fun (body, r) =>
      (String.ofList (unescape escapedInSingle? body), r)
  | '"' :: rest =>
    (quotedBody '"' rest).map fun (body, r) => (String.ofList (unescape escaped? body), r)
  | [] => some ("", [])
  | '\n' :: rest => some ("", '\n' :: rest)
  | cs =>
    let (line, r) := restOfLine cs
    if behindSign.head?.any isGap && cs.head? == some '#' then some ("", r)
    else some (String.ofList (dropEndWhile isBlank (beforeComment line)), r)

/-- What follows a binding on its line: nothing or a comment. -/
def lineEnd? (cs : List Char) : Option (List Char) :=
  let cs := match skipGaps cs with
    | '#' :: rest => (restOfLine rest).2
    | _ => cs
  match skipGaps cs with
  | [] => some []
  | '\n' :: rest => some rest
  | _ => none

/-- The word that may stand before a binding. -/
def afterExport (cs : List Char) : List Char :=
  let word := "export".toList
  if word.isPrefixOf cs then
    match cs.drop word.length with
    | c :: rest => if isGap c then skipGaps (c :: rest) else cs
    | [] => cs
  else cs

/-- One binding from its first character on, and the rest. -/
def binding? (cs : List Char) : Option (Option (String × Option String) × List Char) := do
  let (key, rest) ← key? (afterExport cs)
  let (value, rest) ← match skipGaps rest with
    | '=' :: r => (value? r).map fun (v, r) => (some v, r)
    | r => some (none, r)
  let rest ← lineEnd? rest
  pure (key.map (·, value), rest)

/-- What an environment file says: bindings in their order, and the numbers of the lines at which
statements start that are none. -/
structure Contents where
  bindings : List (String × Option String) := []
  faults : List Nat := []
  deriving DecidableEq, Repr, Inhabited

def countLines (cs : List Char) : Nat := cs.count '\n'

/-- Reads at most `n` statements from a line on. -/
def statements : Nat → Nat → List Char → Contents
  | 0, _, _ => {}
  | n + 1, line, cs =>
    let start := cs.dropWhile isBlank
    if start.isEmpty then {}
    else
      match binding? start with
      | some (found, rest) =>
        let c := statements n (line + (countLines cs - countLines rest)) rest
        { c with bindings := found.toList ++ c.bindings }
      | none =>
        let rest := ((restOfLine (afterFault start)).2).drop 1
        let c := statements n (line + (countLines cs - countLines rest)) rest
        { c with faults := line :: c.faults }
where
  /-- How far a statement was read before it turned out to be none. -/
  afterFault (cs : List Char) : List Char :=
    let cs := afterExport cs
    match key? cs with
    | none => cs
    | some (_, rest) =>
      match skipGaps rest with
      | '=' :: r =>
        match value? r with
        | none => skipGaps r
        | some (_, r) => afterComment r
      | r => afterComment r
  afterComment (cs : List Char) : List Char :=
    match skipGaps cs with
    | '#' :: rest => (restOfLine rest).2
    | _ => cs

/-- Reads a text, of which a byte order mark at its start is no part. -/
def read (text : String) : Contents :=
  let cs := match text.toList with
    | '\ufeff' :: rest => lineFeeds rest
    | cs => lineFeeds cs
  statements (cs.length + 1) 1 cs

/-- A variable within a value: its name and what stands for it if it is missing, and the rest. -/
def reference? (cs : List Char) : Option (String × String × List Char) :=
  match cs with
  | '$' :: '\x7b' :: rest =>
    let name := rest.takeWhile fun c => c != '\x7d' && c != ':'
    match rest.drop name.length with
    | '\x7d' :: r => some (String.ofList name, "", r)
    | ':' :: '-' :: more =>
      let default := more.takeWhile (· ≠ '\x7d')
      match more.drop default.length with
      | _ :: r => some (String.ofList name, String.ofList default, r)
      | [] => none
    | _ => none
  | _ => none

/-- A value with its variables replaced. Each step takes a character at least. -/
def expand (get? : String → Option String) : Nat → List Char → List Char
  | 0, _ => []
  | _ + 1, [] => []
  | n + 1, c :: rest =>
    match reference? (c :: rest) with
    | some (name, default, r) => ((get? name).getD default).toList ++ expand get? n r
    | none => c :: expand get? n rest

/-- The values of the bindings, variables replaced. The environment goes before earlier bindings,
and a name that is bound without a value counts as empty. -/
def resolve (environment : Table String String) :
    Table String (Option String) → List (String × Option String) → Table String (Option String)
  | done, [] => done
  | done, (name, value) :: rest =>
    let get? := fun n =>
      match environment.get? n with
      | some v => some v
      | none => (done.get? n).map (·.getD "")
    let value := value.map fun v => String.ofList (expand get? (v.length + 1) v.toList)
    resolve environment (done.put name value) rest

/-- Sets variables that are not set yet. -/
def setAll : Table String String → List (String × Option String) →
    Except Failure Unit × Table String String
  | environment, [] => (.ok (), environment)
  | environment, (name, value) :: rest =>
    match value with
    | none => setAll environment rest
    | some v =>
      if environment.has name then setAll environment rest
      else if name.toList.contains '\x00' || v.toList.contains '\x00' then
        (.error .embeddedNull, environment)
      else if name.toList.contains '=' then (.error .badVariableName, environment)
      else setAll (environment.put name v) rest

def reporter : String := "dotenv.main"

def faultRecord (line : Nat) : Record where
  level := .warning
  reporter := reporter
  message := s!"python-dotenv could not parse statement starting at line {line}"

/-- The variable that forbids environment files. -/
def forbids (environment : Table String String) : Bool :=
  match environment.get? "PYTHON_DOTENV_DISABLED" with
  | some v => ["1", "true", "t", "yes", "y"].contains v.toLower
  | none => false

/-- Loads the variables of a file into the environment of a host. -/
def load (path : Path) (h : Host) : Except Failure Unit × Host :=
  if forbids h.environment then
    (.ok (), h.debug reporter
      "python-dotenv: .env loading disabled by PYTHON_DOTENV_DISABLED environment variable")
  else
    match h.files.find? path with
    | some (.file text) =>
      let contents := read text
      let h := h.logAll (contents.faults.map faultRecord)
      let (result, environment) :=
        setAll h.environment (resolve h.environment [] contents.bindings)
      (result, { h with environment })
    | _ => (.ok (), h)

end MacroStubs.EnvFile
