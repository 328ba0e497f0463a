import MacroStubs.Literal.Grammar

/-! # Parameters told as a text

Built-in callables and classes tell their parameters as a text: a list in brackets, in which a dollar
sign marks the parameter that takes the object and a slash ends the positional-only parameters.
-/

namespace MacroStubs.Literal
open Token

/-- Parameters that a text tells. -/
structure Told where
  /-- Whether the first parameter takes the object. -/
  takesObject : Bool
  parameters : List (Parameter Value)

/-- What is known of a list whose slash is taken out. -/
structure Unslashed where
  /-- The tokens read, the last one first. -/
  read : List Token := []
  /-- A comma that is put down only if something but a closing bracket follows. -/
  delayed : Bool := false
  skipsComma : Bool := false
  commas : Nat := 0
  /-- The place of the last positional-only parameter. -/
  slash : Option Int := none

/-- Takes the slash out of a list. -/
def unslash : List Token → Unslashed → Option Unslashed
  | [], u => some u
  | symbol "," :: rest, u =>
    if u.skipsComma then unslash rest { u with skipsComma := false }
    else if u.delayed then none
    else unslash rest { u with delayed := true, commas := u.commas + 1 }
  | symbol "/" :: rest, u =>
    if u.skipsComma || u.slash.isSome then none
    else unslash rest { u with skipsComma := true, slash := some (u.commas - 1) }
  | t :: rest, u =>
    let read := if u.delayed && !startsWith ")" [t] then symbol "," :: u.read else u.read
    unslash rest { u with read := t :: read, delayed := false }

/-- The value of a default; sums of constants of one kind are allowed. -/
def defaultOf (e : Expression) : Option Value :=
  match e with
  | .sum negative (.constant (.int m)) (.constant (.int n)) =>
    some (.int (if negative then m - n else m + n))
  | .sum false (.constant (.str s)) (.constant (.str t)) => some (.str (s ++ t))
  | .emptySet => none
  | e => e.value?.toOption

/-- How far a list of parameters has come. -/
inductive Stage where
  | positional (defaults : Bool)
  /-- Right behind a star without a name. -/
  | star
  | keyword
  | finished

/-- The greatest length that a sequence can have. -/
def maxLength : Int := 9223372036854775807

/-- The default of a parameter, if one is told, and the tokens behind it. -/
def default? (item : Reader Expression) (ts : List Token) : Option (Option Value × List Token) :=
  match expect "=" ts with
  | none => some (none, ts)
  | some (name ['s', 'y', 's'] :: symbol "." :: name ['m', 'a', 'x', 's', 'i', 'z', 'e'] :: rest) =>
    some (some (.int maxLength), rest)
  | some rest => do
    let (e, rest) ← item rest
    let v ← defaultOf e
    some (some v, rest)

/-- One parameter at a stage, the stage behind it and the tokens behind it. A star alone is none. -/
def parameter? (item : Reader Expression) :
    Stage → List Token → Option (Option (Parameter Value) × Stage × List Token)
  | .positional _, symbol "*" :: name x :: rest =>
    some (some { name := String.ofList x, kind := .extraPositional }, .keyword, rest)
  | .positional _, symbol "*" :: rest => some (none, .star, rest)
  | .positional _, symbol "**" :: name x :: rest | .keyword, symbol "**" :: name x :: rest =>
    some (some { name := String.ofList x, kind := .extraKeyword }, .finished, rest)
  | .positional defaults, name x :: rest => do
    let (default, rest) ← default? item rest
    if defaults && default.isNone then none
    else some (some { name := String.ofList x, default }, .positional default.isSome, rest)
  | .keyword, name x :: rest | .star, name x :: rest => do
    let (default, rest) ← default? item rest
    some (some { name := String.ofList x, kind := .keywordOnly, default }, .keyword, rest)
  | _, _ => none

/-- Parameters up to the closing bracket, at most `n`. -/
def parametersUntil (item : Reader Expression) : Nat → Stage → List Token →
    Option (List (Parameter Value))
  | 0, _, _ => none
  | n + 1, stage, ts =>
    match stage, ts with
    | .star, symbol ")" :: _ => none
    | _, [symbol ")"] => some []
    | stage, ts => do
      let (p, stage, rest) ← parameter? item stage ts
      let later ← match rest with
        | symbol "," :: rest => parametersUntil item n stage rest
        | rest => match stage, rest with
          | .star, _ => none
          | _, [symbol ")"] => some []
          | _, _ => none
      some (p.toList ++ later)

/-- Makes the parameters up to a place positional-only, all of them if the place is none of theirs. -/
def upToSlash (slash : Int) : Int → List (Parameter Value) → List (Parameter Value)
  | _, [] => []
  | i, p :: rest =>
    if p.kind = .positionalOrKeyword then
      { p with kind := .positionalOnly } ::
        (if i = slash then rest else upToSlash slash (i + 1) rest)
    else p :: rest

/-- The parameters that a text tells. -/
def told? (cs : List Char) : Option Told := do
  let (takesObject, cs) := match cs with
    | '(' :: '$' :: rest => (true, '(' :: rest)
    | cs => (false, cs)
  let u ← unslash (← tokens? cs) {}
  match u.read.reverse with
  | symbol "(" :: ts => do
    let item := expression (nestingFor cs.length) .whole
    let ps ← parametersUntil item ts.length (.positional false) ts
    let ps := match u.slash with
      | some slash => upToSlash slash 0 ps
      | none => ps
    some { takesObject, parameters := ps }
  | _ => none

end MacroStubs.Literal
