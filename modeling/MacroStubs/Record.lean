/-! # Log records

What an operation reports of itself: how serious it is, who reports it, and what. Every reporter
belongs to the program's own family of names.
-/

namespace MacroStubs

inductive Level where
  | debug
  | info
  | warning
  | error
  | critical
  deriving DecidableEq, Repr, Inhabited

namespace Level

def name : Level → String
  | debug => "DEBUG"
  | info => "INFO"
  | warning => "WARNING"
  | error => "ERROR"
  | critical => "CRITICAL"

def rank : Level → Nat
  | debug => 10
  | info => 20
  | warning => 30
  | error => 40
  | critical => 50

def ofName? (s : String) : Option Level :=
  [debug, info, warning, error, critical].find? (·.name == s)

end Level

structure Record where
  level : Level
  reporter : String
  message : String
  deriving DecidableEq, Repr, Inhabited

/-- The family of names that all reporters belong to. -/
def reporterFamily : String := "macro_stubgen"

/-- The full name of a reporter: a name outside the family is put below it. -/
def reporterName (name : String) : String :=
  if name = reporterFamily ∨ (reporterFamily ++ ".").toList.isPrefixOf name.toList then name
  else reporterFamily ++ "." ++ name

end MacroStubs
