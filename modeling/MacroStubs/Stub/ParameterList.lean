import MacroStubs.Literal.Render
import MacroStubs.Value.Arguments

/-! # Parameter lists

A parameter list as it stands in a declaration. A slash ends a run of positional-only parameters,
and a star opens the keyword-only ones unless the parameter for extra arguments does. A default
without a literal form is left out.
-/

namespace MacroStubs
open Value

variable (labels : Labels)

/-- The default as it is written, if it is. -/
def Parameter.defaultText? (p : Parameter Value) : Except Failure (Option (List Char)) :=
  match p.default with
  | none => pure none
  | some v => v.literal? labels

/-- A parameter without the marks around it. -/
def Parameter.text (p : Parameter Value) : Except Failure (List Char) :=
  match p.kind with
  | .extraPositional => pure ('*' :: p.name.toList)
  | .extraKeyword => pure ('*' :: '*' :: p.name.toList)
  | _ => do
    match ← p.defaultText? labels with
    | none => pure p.name.toList
    | some text => pure (p.name.toList ++ '=' :: text)

namespace ParameterList

/-- Whether a slash follows a parameter, given what comes after it. -/
def endsPositionalOnly (p : Parameter Value) (rest : ParameterList) : Bool :=
  p.kind = .positionalOnly && (rest.head?.map (·.kind)) != some .positionalOnly

/-- The parts between the commas; `star` tells whether a star stands before them. -/
def parts (star : Bool) : ParameterList → Except Failure (List (List Char))
  | [] => pure []
  | p :: rest => do
    let opens := p.kind = .keywordOnly && !star
    let text ← p.text labels
    let later ← parts (star || opens || p.kind = .extraPositional) rest
    pure ((if opens then [['*']] else []) ++ text ::
      ((if endsPositionalOnly p rest then [['/']] else []) ++ later))

/-- The text of a parameter list. -/
def text (ps : ParameterList) : Except Failure (List Char) :=
  (parts labels false ps).map commas

/-- What there is to report when a parameter list is written, up to where writing it fails. -/
def notes : ParameterList → List Record
  | [] => []
  | p :: rest =>
    if p.kind.isExtra then notes rest
    else
      match p.default with
      | none => notes rest
      | some v =>
        match v.literal? labels with
        | .ok _ => v.literalNotes labels ++ notes rest
        | .error _ => []

end ParameterList
end MacroStubs
