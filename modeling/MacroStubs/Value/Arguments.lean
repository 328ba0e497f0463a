import MacroStubs.Value.Equality

/-! # Arguments

How arguments reach the parameters of a callable: all of them in a call, some of them in a callable
that keeps them for later.
-/

namespace MacroStubs

/-- The parameters of a callable in their order. -/
abbrev ParameterList := List (Parameter Value)

namespace Arguments

def namesOf (kinds : List ParameterKind) (ps : ParameterList) : List String :=
  (ps.filter fun p => kinds.contains p.kind).map (·.name)

/-- The names that a keyword argument can reach. -/
def keywordNames (ps : ParameterList) : List String :=
  namesOf [.positionalOrKeyword, .keywordOnly] ps

/-- The parameters that one positional argument each can reach. -/
def positionals (ps : ParameterList) : ParameterList :=
  ps.filter (·.kind.isPositional)

/-- What is wrong with a keyword argument. -/
def keywordFault? (ps : ParameterList) (given : Nat) (keywords : List String)
    (name : String) : Option CallFault :=
  if (keywordNames ps).contains name then
    if ((positionals ps).take given).any (·.name == name) then some (.repeated name) else none
  else if ps.any (·.kind = .extraKeyword) then none
  else
    let barred := (namesOf [.positionalOnly] ps).filter keywords.contains
    if barred.isEmpty then some (.unexpected name) else some (.positionalOnly barred)

/-- What is wrong with the number of the positional arguments. -/
def countFault? (ps : ParameterList) (given : Nat) (keywords : List String) :
    Option CallFault :=
  let taken := positionals ps
  if given ≤ taken.length || ps.any (·.kind = .extraPositional) then none
  else
    some (.tooMany (taken.filter (·.default.isNone)).length taken.length given
      ((namesOf [.keywordOnly] ps).filter keywords.contains).length)

/-- The parameters that need an argument and get none, if there are any. -/
def missing? (positional : Bool) (ps : ParameterList) (keywords : List String) :
    Option CallFault :=
  let names := (ps.filter fun p =>
    p.default.isNone && !(p.kind ≠ .positionalOnly && keywords.contains p.name)).map (·.name)
  if names.isEmpty then none else some (.missing positional names)

/-- What is wrong with the arguments of a call. -/
def fault? (ps : ParameterList) (given : Nat) (keywords : List String) :
    Option CallFault :=
  (keywords.findSome? (keywordFault? ps given keywords)).or <|
    (countFault? ps given keywords).or <|
      (missing? true ((positionals ps).drop given) keywords).or <|
        missing? false (ps.filter (·.kind = .keywordOnly)) keywords

/-- The values of parameters; `named` are the names that keyword arguments reach. -/
def values (named : List String) (keywords : Table String Value) :
    ParameterList → List Value → List (String × Value)
  | [], _ => []
  | p :: ps, given =>
    match p.kind with
    | .positionalOnly | .positionalOrKeyword =>
      match given with
      | v :: rest => (p.name, v) :: values named keywords ps rest
      | [] =>
        let v := if p.kind = .positionalOnly then none else keywords.get? p.name
        (p.name, (v.or p.default).getD .null) :: values named keywords ps []
    | .extraPositional => (p.name, .tuple given) :: values named keywords ps []
    | .keywordOnly =>
      (p.name, ((keywords.get? p.name).or p.default).getD .null) :: values named keywords ps given
    | .extraKeyword =>
      let rest := keywords.filter fun e => !named.contains e.1
      (p.name, .dict (rest.map fun (n, v) => (Value.str n, v))) :: values named keywords ps given

/-- The parameters with their values in a call. -/
def ofCall (ps : ParameterList) (given : List Value) (keywords : Table String Value) :
    Except CallFault (List (String × Value)) :=
  match fault? ps given.length keywords.keys with
  | some fault => throw fault
  | none => pure (values (keywordNames ps) keywords ps given)

/-- Keyword arguments given to parameters that no positional one reached. A parameter for extra
keyword arguments takes those left over. -/
def keptByKeyword (takesMore : Bool) :
    ParameterList → Table String Value → Option (Table String Value)
  | [], keywords => if keywords.isEmpty || takesMore then some [] else none
  | p :: ps, keywords =>
    match p.kind with
    | .extraPositional => keptByKeyword takesMore ps keywords
    | .extraKeyword => keptByKeyword true ps keywords
    | .positionalOnly =>
      if keywords.has p.name then none else keptByKeyword takesMore ps keywords
    | _ =>
      match keywords.get? p.name with
      | some v => (keptByKeyword takesMore ps (keywords.erase p.name)).map ((p.name, v) :: ·)
      | none => keptByKeyword takesMore ps keywords

/-- The parameters that some arguments reach, with their values; the other parameters may stay
without one. None if an argument reaches no parameter or one that has a value already. -/
def kept : ParameterList → List Value → Table String Value → Option (Table String Value)
  | ps, [], keywords => keptByKeyword false ps keywords
  | [], _ :: _, _ => none
  | p :: ps, v :: rest, keywords =>
    match p.kind with
    | .keywordOnly => none
    | .extraKeyword => none
    | .extraPositional => keptByKeyword false ps keywords
    | .positionalOnly => (kept ps rest keywords).map ((p.name, v) :: ·)
    | .positionalOrKeyword =>
      if keywords.has p.name then none else (kept ps rest keywords).map ((p.name, v) :: ·)

/-- The parameters left when some have a value. One given by keyword keeps the value as its default
and can, like all after it, be given by keyword only. -/
def left (values keywords : Table String Value) (byKeyword : Bool) :
    ParameterList → ParameterList
  | [] => []
  | p :: ps =>
    match p.kind, values.get? p.name with
    | .positionalOnly, some _ => left values keywords byKeyword ps
    | .positionalOrKeyword, some v =>
      if keywords.has p.name then
        { p with kind := .keywordOnly, default := some v } :: left values keywords true ps
      else left values keywords byKeyword ps
    | .positionalOrKeyword, none =>
      (if byKeyword then { p with kind := .keywordOnly } else p) :: left values keywords byKeyword ps
    | .keywordOnly, some v =>
      { p with default := some v } :: left values keywords byKeyword ps
    | .extraPositional, _ =>
      if byKeyword then left values keywords byKeyword ps
      else p :: left values keywords byKeyword ps
    | _, _ => p :: left values keywords byKeyword ps

/-- The parameters of a callable that keeps some arguments. -/
def remaining? (ps : ParameterList) (positional : List Value)
    (keywords : Table String Value) : Option (ParameterList) :=
  (kept ps positional keywords).map fun values => left values keywords false ps

/-- The first name that stands for more than one parameter. -/
def repeatedName? : ParameterList → Option String
  | [] => none
  | p :: rest => if rest.any (·.name == p.name) then some p.name else repeatedName? rest

end Arguments
end MacroStubs
