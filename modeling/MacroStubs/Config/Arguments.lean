import MacroStubs.Host.Path
import MacroStubs.Text.Digit

/-! # Arguments

The command line: flags in full, shortened as long as no other flag begins so, or, for those of one
letter, several in one word. A value follows its flag as the next word or behind an equals sign.
-/

namespace MacroStubs

/-- What a flag was given. -/
inductive Given (α : Type) where
  | absent
  /-- Two dashes for a value, which leave none. -/
  | emptied
  | value (a : α)
  deriving DecidableEq, Repr, Inhabited

def Given.value? {α : Type} : Given α → Option α
  | value a => some a
  | _ => none

structure Arguments where
  filename : Given String := .absent
  envFile : Given Path := .absent
  logDir : Given Path := .absent
  verbose : Bool := false
  deriving DecidableEq, Repr, Inhabited

inductive Flag where
  | help
  | filename
  | envFile
  | logDir
  | verbose
  deriving DecidableEq, Repr, Inhabited

/-- Why a command line is not accepted. -/
inductive ArgumentFault where
  | valueMissing (flag : Flag)
  | valueIgnored (flag : Flag) (value : String)
  | ambiguous (word : String) (spellings : List String)
  | unrecognized (words : List String)
  deriving DecidableEq, Repr, Inhabited

/-- What reading a command line comes to. -/
inductive ArgumentOutcome where
  | accepted (arguments : Arguments)
  | helpWanted
  | refused (fault : ArgumentFault)
  deriving DecidableEq, Repr, Inhabited

namespace Flag

def spellings : Flag → List String
  | help => ["-h", "--help"]
  | filename => ["--filename"]
  | envFile => ["--env-file"]
  | logDir => ["--log-dir"]
  | verbose => ["-v", "--verbose"]

def takesValue : Flag → Bool
  | help | verbose => false
  | filename | envFile | logDir => true

def all : List Flag := [help, filename, envFile, logDir, verbose]

/-- Every spelling with its flag. -/
def table : List (String × Flag) :=
  all.flatMap fun f => f.spellings.map (·, f)

def ofSpelling? (s : String) : Option Flag := table.lookup s

/-- The flag of one letter. -/
def ofLetter? (c : Char) : Option Flag := ofSpelling? (String.ofList ['-', c])

end Flag

namespace Arguments
open Text

/-- A flag in a word: its spelling, and a value given in the same word. -/
structure Seen where
  flag : Option Flag
  spelling : String
  value : Option String

/-- What a word is before values are sought. -/
inductive Word where
  | plain
  /-- Two dashes, after which all words are plain. -/
  | dashes
  | flag (seen : Seen)

/-- A word parted at its first equals sign. -/
def parted? (word : String) : Option (String × String) :=
  let cs := word.toList
  match cs.dropWhile (· ≠ '=') with
  | _ :: value => some (String.ofList (cs.takeWhile (· ≠ '=')), String.ofList value)
  | [] => none

/-- The flags that a word may be short for. -/
def candidates (word : String) : List Seen :=
  match word.toList with
  | '-' :: '-' :: _ =>
    let (start, value) := match parted? word with
      | some (start, value) => (start, some value)
      | none => (word, none)
    Flag.table.filterMap fun (s, f) =>
      if beginsWith s start then some { flag := f, spelling := s, value } else none
  | '-' :: c :: rest =>
    Flag.table.filterMap fun (s, f) =>
      if s = String.ofList ['-', c] then
        some { flag := f, spelling := s, value := some (String.ofList rest) }
      else if beginsWith s word then some { flag := f, spelling := s, value := none }
      else none
  | _ => []

/-- A negative number, which is no flag; a line feed may end it. -/
def isNegativeNumber (word : String) : Bool :=
  match word.toList with
  | '-' :: rest =>
    let rest := if rest.getLast? = some '\n' then rest.dropLast else rest
    let whole := rest.takeWhile isDecimalDigit
    match rest.dropWhile isDecimalDigit with
    | [] => !whole.isEmpty
    | '.' :: fraction => !fraction.isEmpty && fraction.all isDecimalDigit
    | _ => false
  | _ => false

/-- What a word is that begins with a dash and has more to it. -/
def dashed (word : String) : Except ArgumentFault Word :=
  match Flag.ofSpelling? word with
  | some f => pure (.flag { flag := f, spelling := word, value := none })
  | none =>
    match (parted? word).bind fun (s, v) => (Flag.ofSpelling? s).map (s, v, ·) with
    | some (s, v, f) => pure (.flag { flag := f, spelling := s, value := some v })
    | none =>
      match candidates word with
      | [seen] => pure (.flag seen)
      | _ :: _ :: _ => throw (.ambiguous word ((candidates word).map (·.spelling)))
      | [] =>
        if isNegativeNumber word || word.toList.contains ' ' then pure .plain
        else pure (.flag { flag := none, spelling := word, value := none })

/-- What each word is. -/
def classify : List String → Except ArgumentFault (List (String × Word))
  | [] => pure []
  | word :: rest =>
    if word = "--" then pure ((word, .dashes) :: rest.map (·, .plain))
    else do
      let w ← match word.toList with
        | '-' :: _ :: _ => dashed word
        | _ => pure .plain
      let later ← classify rest
      pure ((word, w) :: later)

/-- The flags of one letter each that stand behind another one in a word. -/
def bundle (flag : Flag) : List Char → Except ArgumentFault (List Flag)
  | [] => pure [flag]
  | c :: rest =>
    match Flag.ofLetter? c with
    | none => throw (.valueIgnored flag (String.ofList (c :: rest)))
    | some next => do
      let later ← bundle next rest
      pure (flag :: later)

/-- What a value stands for. -/
def given {α : Type} (f : String → α) (value : String) : Given α :=
  if value = "--" then .emptied else .value (f value)

/-- Sets what a flag with a value stands for. -/
def withValue (flag : Flag) (value : String) (a : Arguments) : Arguments :=
  match flag with
  | .filename => { a with filename := given id value }
  | .envFile => { a with envFile := given Path.ofText value }
  | .logDir => { a with logDir := given Path.ofText value }
  | .help | .verbose => a

/-- Applies flags without values; none if help is wanted. -/
def withFlags : List Flag → Arguments → Option Arguments
  | [], a => some a
  | .help :: _, _ => none
  | .verbose :: rest, a => withFlags rest { a with verbose := true }
  | _ :: rest, a => withFlags rest a

/-- The flags without values that a word holds. -/
def flagsOf (flag : Flag) (seen : Seen) : Except ArgumentFault (List Flag) :=
  match seen.value with
  | none => pure [flag]
  | some value =>
    if value.isEmpty || beginsWith seen.spelling "--" then throw (.valueIgnored flag value)
    else bundle flag value.toList

/-- Reads words from the left; words that belong to no flag are kept. -/
def collect (a : Arguments) (extra : List String) : List (String × Word) → ArgumentOutcome
  | [] => if extra.isEmpty then .accepted a else .refused (.unrecognized extra)
  | (_, .flag ⟨some f, spelling, value⟩) :: rest =>
    if f.takesValue then
      match value, rest with
      | some v, rest => collect (withValue f v a) extra rest
      | none, (v, .plain) :: rest => collect (withValue f v a) extra rest
      | none, _ => .refused (.valueMissing f)
    else
      match flagsOf f ⟨some f, spelling, value⟩ with
      | .error fault => .refused fault
      | .ok flags =>
        match withFlags flags a with
        | none => .helpWanted
        | some a => collect a extra rest
  | (word, _) :: rest => collect a (extra ++ [word]) rest

/-- Reads a command line. -/
def ofWords (words : List String) : ArgumentOutcome :=
  match classify words with
  | .error fault => .refused fault
  | .ok classified => collect {} [] classified

end Arguments

namespace ArgumentFault

def message : ArgumentFault → String
  | valueMissing f => "argument " ++ "/".intercalate f.spellings ++ ": expected one argument"
  | valueIgnored f value =>
    "argument " ++ "/".intercalate f.spellings ++ ": ignored explicit argument " ++ Text.quote value
  | ambiguous word spellings =>
    "ambiguous option: " ++ word ++ " could match " ++ ", ".intercalate spellings
  | unrecognized words => "unrecognized arguments: " ++ " ".intercalate words

end ArgumentFault

def usageText : String :=
  "usage: macro-stubgen [-h] [--filename PATH] [--env-file FILE] [--log-dir DIR]\n" ++
  "                     [-v]\n"

def helpText : String :=
  usageText ++
  "\n" ++
  "Generate an IDE helper stub (.pyi) for runtime-registered macros\n" ++
  "\n" ++
  "options:\n" ++
  "  -h, --help       show this help message and exit\n" ++
  "  --filename PATH  Output stub file (default: MACROS_FILENAME); relative paths\n" ++
  "                   resolve against MACROS_BASE_PATH\n" ++
  "  --env-file FILE  Load configuration from this .env file instead of ./.env\n" ++
  "  --log-dir DIR    Also write a debug log file to this directory\n" ++
  "  -v, --verbose    Enable verbose output with debug logs\n" ++
  "\n" ++
  "Examples:\n" ++
  "  # Write stubs to the configured MACROS_FILENAME\n" ++
  "  macro-stubgen\n" ++
  "\n" ++
  "  # Write stubs to an explicit file\n" ++
  "  macro-stubgen --filename=_ide_macros.pyi\n" ++
  "\n" ++
  "  # Scan extra classes, importing the modules that register macros first\n" ++
  "  MACROS_CLASSES=app.models.Invoice,app.http:Request \\\n" ++
  "  MACROS_BOOTSTRAP=app.macros macro-stubgen --filename=_ide_macros.pyi\n" ++
  "\n" ++
  "  # Using a .env file for configuration\n" ++
  "  echo 'MACROS_FILENAME=_ide_macros.pyi' > .env\n" ++
  "  macro-stubgen --verbose\n" ++
  "        \n"

/-- What is written about a command line that is not accepted. -/
def ArgumentFault.report (fault : ArgumentFault) : String :=
  usageText ++ "macro-stubgen: error: " ++ fault.message ++ "\n"

end MacroStubs
