import MacroStubs.Proofs.Outcome
import MacroStubs.Stub.ParameterList
import MacroStubs.Text.Identifier

/-! # Parts of a parameter list

A parameter list read from its text: the parts between the commas that stand outside of brackets and
quotes, and whether a definition may have these parts. What is written for parameters is read as one
part for each, with the marks between them.
-/

namespace MacroStubs

/-- Where the reading of a text stands. Open brackets are given by those that close them. -/
inductive Scan where
  | code (opened : List Char)
  | quoted (opened : List Char) (quote : Char)
  /-- Right behind a backslash between quotes. -/
  | escaped (opened : List Char) (quote : Char)
  deriving DecidableEq, Repr

namespace Scan

def closing? (c : Char) : Option Char :=
  if c = '(' then some ')' else if c = '[' then some ']' else if c = '\x7b' then some '\x7d' else none

/-- What a character leads to: a comma outside of brackets, a comment, or a bracket that does not
match lead nowhere. -/
def next : Scan → Char → Option Scan
  | quoted opened quote, c =>
    if c = '\n' then none
    else if c = '\\' then some (escaped opened quote)
    else if c = quote then some (code opened)
    else some (quoted opened quote)
  | escaped opened quote, _ => some (quoted opened quote)
  | code opened, c =>
    if c = '#' ∨ (c = ',' ∧ opened = []) then none
    else if c = '\'' ∨ c = '"' then some (quoted opened c)
    else
      match closing? c with
      | some d => some (code (d :: opened))
      | none =>
        if c = ')' ∨ c = ']' ∨ c = '\x7d' then
          if opened.head? = some c then some (code opened.tail) else none
        else some (code opened)

/-- Whether a text ends where it begins: outside of quotes, and within the same brackets. -/
def Passes (opened text : List Char) : Prop :=
  text.foldlM next (code opened) = some (code opened)

instance (opened text : List Char) : Decidable (Passes opened text) :=
  inferInstanceAs (Decidable (_ = _))

/-- The pieces of a text between the commas outside of brackets and quotes. -/
def pieces? : Scan → List Char → Option (List (List Char))
  | s, [] => if s = code [] then some [[]] else none
  | s, c :: rest =>
    if s = code [] ∧ c = ',' then (pieces? s rest).map ([] :: ·)
    else do
      let s ← s.next c
      (pieces? s rest).map (List.modifyHead (c :: ·))

variable {s s' : Scan} {t rest opened : List Char}

theorem pieces?_append (h : t.foldlM next s = some s') :
    pieces? s (t ++ rest) = (pieces? s' rest).map (List.modifyHead (t ++ ·)) := by
  induction t generalizing s with
  | nil =>
    obtain rfl : s = s' := Option.some.inj h
    have hid : List.modifyHead (([] : List Char) ++ ·) = id := by
      funext pieces
      cases pieces <;> rfl
    rw [hid, Option.map_id]
    rfl
  | cons c t ih =>
    rw [List.foldlM_cons] at h
    obtain ⟨s₁, hc, ht⟩ := Option.bind_eq_some_iff.mp h
    have hne : ¬ (s = code [] ∧ c = ',') := by
      rintro ⟨rfl, rfl⟩
      cases hc
    rw [List.cons_append, pieces?, if_neg hne, hc, Option.bind_eq_bind, Option.bind_some, ih ht,
      Option.map_map]
    congr 1
    funext pieces
    cases pieces <;> rfl

/-- Pieces with commas between them are read as they are, each later one behind a blank. -/
theorem pieces?_commas {first : List Char} {later : List (List Char)} (hf : Passes [] first)
    (hl : ∀ t ∈ later, Passes [] t) :
    pieces? (code []) (Value.commas (first :: later)) =
      some (first :: later.map (' ' :: ·)) := by
  induction later generalizing first with
  | nil =>
    have h : pieces? (code []) (first ++ []) = _ := pieces?_append hf
    rw [List.append_nil] at h
    rw [Value.commas, h]
    simp [pieces?]
  | cons second later ih =>
    obtain ⟨hs, hl⟩ := List.forall_mem_cons.mp hl
    have hcommas : Value.commas (first :: second :: later) =
        first ++ ',' :: ' ' :: Value.commas (second :: later) := rfl
    have hblank : (code []).next ' ' = some (code []) := by decide
    rw [hcommas, pieces?_append hf, pieces?, if_pos ⟨rfl, rfl⟩, pieces?, if_neg (by decide), hblank,
      Option.bind_eq_bind, Option.bind_some, ih hs hl]
    simp

/-- Whether a character leaves the reading where it is, in brackets or not. -/
def isOrdinary (c : Char) : Bool :=
  !(['#', ',', '\'', '"', '(', ')', '[', ']', '\x7b', '\x7d'].contains c)

theorem next_of_isOrdinary {c : Char} (h : isOrdinary c = true) :
    (code opened).next c = some (code opened) := by
  simp only [isOrdinary, List.contains_cons, List.contains_nil, Bool.or_false, Bool.not_eq_true',
    Bool.or_eq_false_iff, beq_eq_false_iff_ne, ne_eq] at h
  simp [next, closing?, h]

theorem passes_of_isOrdinary (h : t.all isOrdinary = true) : Passes opened t := by
  induction t with
  | nil => rfl
  | cons c t ih =>
    rw [List.all_cons, Bool.and_eq_true] at h
    rw [Passes, List.foldlM_cons, next_of_isOrdinary h.1]
    exact ih h.2

theorem Passes.append {t t' : List Char} (h : Passes opened t) (h' : Passes opened t') :
    Passes opened (t ++ t') := by
  rw [Passes, List.foldlM_append, h]
  exact h'

theorem Passes.cons {c : Char} (hc : isOrdinary c = true) (h : Passes opened t) :
    Passes opened (c :: t) := by
  rw [Passes, List.foldlM_cons, next_of_isOrdinary hc]
  exact h

end Scan

/-- What stands between two commas of a parameter list. -/
inductive Part where
  | slash
  | star
  | extraPositional (name : List Char)
  | extraKeyword (name : List Char)
  | plain (name : List Char) (default : Option (List Char))
  deriving DecidableEq, Repr

namespace Part

def text : Part → List Char
  | slash => ['/']
  | star => ['*']
  | extraPositional name => '*' :: name
  | extraKeyword name => '*' :: '*' :: name
  | plain name none => name
  | plain name (some default) => name ++ '=' :: default

/-- The part that a text is. -/
def read : List Char → Part
  | ['/'] => slash
  | ['*'] => star
  | '*' :: '*' :: name => extraKeyword name
  | '*' :: name => extraPositional name
  | cs =>
    match cs.dropWhile (· ≠ '=') with
    | [] => plain cs none
    | _ :: default => plain (cs.takeWhile (· ≠ '=')) (some default)

def name? : Part → Option (List Char)
  | slash | star => none
  | extraPositional name | extraKeyword name | plain name _ => some name

def default? : Part → Option (List Char)
  | plain _ default => default
  | _ => none

/-- Whether the name of a part can be one and its default is a literal. -/
def isSound (part : Part) : Bool :=
  (part.name?.all fun name => Text.isDeclarable (String.ofList name)) &&
    part.default?.all fun text => (Literal.read text).isOk

/-- The parts of a text between its commas. -/
def ofText? (text : List Char) : Option (List Part) :=
  if text = [] then some []
  else (Scan.pieces? (.code []) text).map fun pieces =>
    pieces.map fun piece => read (piece.dropWhile (· = ' '))

open Literal (Parameters)

/-- Whether parts may follow each other in a definition: a slash once behind a positional parameter,
one star, a name behind a star alone, what takes keyword arguments last, and in front of a star no
parameter without a default behind one with a default. `found` tells whether a parameter came, and
`slash` whether a slash may still come. -/
def areArranged : Parameters → Bool → Bool → List Part → Bool
  | state, _, _, [] => state ≠ .star
  | state, found, mayEnd, slash :: rest =>
    mayEnd && found && (state = .plain || state = .defaults) && areArranged state found false rest
  | state, found, _, star :: rest =>
    (state = .plain || state = .defaults) && areArranged .star found false rest
  | state, _, _, extraPositional _ :: rest =>
    (state = .plain || state = .defaults) && areArranged .keywords true false rest
  | state, _, _, extraKeyword _ :: rest => state ≠ .star && rest.isEmpty
  | state, _, mayEnd, plain _ (some _) :: rest =>
    areArranged (if state = .plain ∨ state = .defaults then .defaults else .keywords) true mayEnd rest
  | state, _, mayEnd, plain _ none :: rest =>
    state ≠ .defaults && areArranged (if state = .plain then .plain else .keywords) true mayEnd rest

/-- Whether a text is the parameter list of a definition whose defaults are literals, without a comma
behind the last parameter. -/
def isParameterList (text : List Char) : Bool :=
  match ofText? text with
  | none => false
  | some parts =>
    parts.all isSound && decide (parts.filterMap name?).Nodup && areArranged .plain false true parts

end Part

section

variable (labels : Labels)

/-- The literal text that a parameter is written with, if it is written with one. -/
def Parameter.writtenDefault? (p : Parameter Value) : Option (List Char) :=
  match p.defaultText? labels with
  | .ok text => text
  | .error _ => none

def Parameter.part (p : Parameter Value) : Part :=
  match p.kind with
  | .extraPositional => .extraPositional p.name.toList
  | .extraKeyword => .extraKeyword p.name.toList
  | _ => .plain p.name.toList (p.writtenDefault? labels)

/-- The parts that parameters are written as; `star` tells whether a star stands before them. -/
def ParameterList.partList (star : Bool) : ParameterList → List Part
  | [] => []
  | p :: rest =>
    let opens := p.kind = .keywordOnly && !star
    (if opens then [.star] else []) ++ p.part labels ::
      ((if endsPositionalOnly p rest then [.slash] else []) ++
        partList (star || opens || p.kind = .extraPositional) rest)

end

variable {labels : Labels} {ps : ParameterList} {p : Parameter Value} {text : List Char}

theorem Parameter.text_part (h : p.text labels = .ok text) : text = (p.part labels).text := by
  rw [Parameter.text] at h
  rw [Parameter.part]
  cases hk : p.kind <;> rw [hk] at h
  case extraPositional | extraKeyword => exact (pure_eq_ok.mp h).symm
  all_goals
    obtain ⟨text?, hd, h⟩ := bind_eq_ok.mp h
    rw [writtenDefault?, hd]
    cases text? <;> exact (pure_eq_ok.mp h).symm

namespace ParameterList

theorem parts_eq {star : Bool} {texts : List (List Char)}
    (h : ParameterList.parts labels star ps = .ok texts) :
    texts = (partList labels star ps).map Part.text := by
  induction ps generalizing star texts with
  | nil => exact (pure_eq_ok.mp h).symm
  | cons p rest ih =>
    obtain ⟨text, ht, h⟩ := bind_eq_ok.mp h
    obtain ⟨later, hl, h⟩ := bind_eq_ok.mp h
    rw [← pure_eq_ok.mp h, partList, Parameter.text_part ht, ih hl]
    simp only [List.map_append, List.map_cons, apply_ite (List.map Part.text), List.map_nil,
      Part.text]

/-- The text of parameters is that of their parts. -/
theorem text_eq (h : ParameterList.text labels ps = .ok text) :
    text = Value.commas ((partList labels false ps).map Part.text) := by
  obtain ⟨texts, hp, rfl⟩ := map_eq_ok.mp h
  rw [parts_eq hp]

/-- The names of the parts are those of the parameters. -/
theorem filterMap_name?_partList (star : Bool) :
    (partList labels star ps).filterMap Part.name? = ps.map (·.name.toList) := by
  induction ps generalizing star with
  | nil => rfl
  | cons p rest ih =>
    have hname : (p.part labels).name? = some p.name.toList := by
      rw [Parameter.part]
      split <;> rfl
    have hmark (b : Bool) (m : Part) (hm : m.name? = none) :
        (if b then [m] else []).filterMap Part.name? = [] := by
      cases b <;> simp [hm]
    rw [partList, List.filterMap_append, hmark _ _ rfl, List.filterMap_cons, hname,
      List.filterMap_append, hmark _ _ rfl, ih]
    rfl

end ParameterList

end MacroStubs
