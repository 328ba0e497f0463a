import MacroStubs.Literal.Expression
import MacroStubs.Literal.Token

/-! # Grammar of expressions

Reading an expression from its tokens. An expression is read by grade: what binds loosely is read as a
chain of what binds more tightly. Only what a literal may hold is kept; everything else is checked
and kept as other.
-/

namespace MacroStubs.Literal
open Token

/-- What was read, and the tokens behind it. -/
abbrev Reader (α : Type) := List Token → Option (α × List Token)

/-- How tightly an expression holds together, from the loosest to the tightest. -/
inductive Grade where
  | whole
  | disjunction
  | conjunction
  | inversion
  | comparison
  | alternative
  | exclusive
  | common
  | shifted
  | sum
  | product
  | factor
  | power
  | primary
  deriving DecidableEq, Repr

/-- The tokens behind a symbol. -/
def expect (text : String) : List Token → Option (List Token)
  | symbol s :: rest => if s = text then some rest else none
  | _ => none

def startsWith (text : String) : List Token → Bool
  | symbol s :: _ => s == text
  | _ => false

/-- One of some symbols. -/
def symbolOf (texts : List String) : Reader String
  | symbol s :: rest => if texts.contains s then some (s, rest) else none
  | _ => none

def comparisonSign : Reader String
  | symbol "not" :: symbol "in" :: rest => some ("not in", rest)
  | symbol "is" :: symbol "not" :: rest => some ("is not", rest)
  | ts => symbolOf ["==", "!=", "<", "<=", ">", ">=", "in", "is"] ts

/-- Further operands of a chain, at most `n` of them. -/
def operands (sign : Reader String) (operand : Reader Expression)
    (join : String → Expression → Expression → Expression) : Nat → Expression → Reader Expression
  | 0, e, ts => some (e, ts)
  | n + 1, e, ts =>
    match sign ts with
    | none => some (e, ts)
    | some (s, rest) => do
      let (right, rest) ← operand rest
      operands sign operand join n (join s e right) rest

/-- Operands with signs between them, joined from the left. -/
def chain (sign : Reader String) (operand : Reader Expression)
    (join : String → Expression → Expression → Expression) : Reader Expression := fun ts => do
  let (e, rest) ← operand ts
  operands sign operand join ts.length e rest

def joinOther (_ : String) (_ _ : Expression) : Expression := .other

def joinSum (sign : String) (left right : Expression) : Expression := .sum (sign == "-") left right

/-- Items up to a closing symbol, with whether there is a comma; `n` bounds their number. -/
def itemsUntil (item : Reader Expression) (closing : String) :
    Nat → Bool → List Expression → Reader (List Expression × Bool)
  | 0, _, _, _ => none
  | n + 1, comma, items, ts =>
    match expect closing ts with
    | some rest => some ((items.reverse, comma), rest)
    | none => do
      let (e, rest) ← item ts
      match expect "," rest with
      | some rest => itemsUntil item closing n true (e :: items) rest
      | none => do
        let rest ← expect closing rest
        some (((e :: items).reverse, comma), rest)

section
variable (read : Grade → Reader Expression)

/-- An expression, or a name that is given one. -/
def named : Reader Expression
  | name _ :: symbol ":=" :: rest => do
    let (_, rest) ← read .whole rest
    some (.other, rest)
  | ts => read .whole ts

/-- Whether an expression begins with a name that is given a value. -/
def isNaming : List Token → Bool
  | name _ :: symbol ":=" :: _ => true
  | _ => false

/-- An item of a display, which may stand for several. -/
def starredOr (other : Reader Expression) (ts : List Token) : Option (Expression × List Token) :=
  match expect "*" ts with
  | some rest => do
    let (e, rest) ← read .alternative rest
    some (.starred e, rest)
  | none => other ts

def item : Reader Expression := starredOr read (named read)

/-- The targets of a loop up to `in`, at least one. -/
def targets : Nat → List Token → Option (List Token)
  | 0, _ => none
  | n + 1, ts => do
    let (e, rest) ← read .primary ((expect "*" ts).getD ts)
    if !e.isTarget then none
    match expect "," rest with
    | some rest => if startsWith "in" rest then expect "in" rest else targets n rest
    | none => expect "in" rest

/-- The conditions of a loop. -/
def conditions : Nat → List Token → Option (List Token)
  | 0, _ => none
  | n + 1, ts =>
    match expect "if" ts with
    | some rest => do
      let (_, rest) ← read .disjunction rest
      conditions n rest
    | none => some ts

def isLoop (ts : List Token) : Bool := startsWith "for" ts || startsWith "async" ts

/-- One loop or more with their conditions. -/
def loops : Nat → List Token → Option (List Token)
  | 0, _ => none
  | n + 1, ts => do
    let ts ← expect "for" ((expect "async" ts).getD ts)
    let ts ← targets read ts.length ts
    let (_, ts) ← read .disjunction ts
    let ts ← conditions read (ts.length + 1) ts
    if isLoop ts then loops n ts else some ts

/-- A display whose first item is `first`, by loops or by further items. -/
def display (closing : String) (first : Expression) (plural : List Expression → Expression) :
    Reader Expression := fun ts =>
  if isLoop ts then
    if first.isStarred then none
    else do
      let ts ← loops read ts.length ts
      (expect closing ts).map (.other, ·)
  else
    match expect "," ts with
    | some rest => do
      let ((items, _), rest) ← itemsUntil (item read) closing (rest.length + 1) true [first] rest
      some (plural items, rest)
    | none => (expect closing ts).map (plural [first], ·)

/-- What `yield` stands before, up to the closing bracket. -/
def yielded (ts : List Token) : Option (List Token) :=
  match expect "from" ts with
  | some rest => do
    let (_, rest) ← read .whole rest
    expect ")" rest
  | none => do
    let ((items, comma), rest) ←
      itemsUntil (starredOr read (read .whole)) ")" (ts.length + 1) false [] ts
    if !comma && items.any Expression.isStarred then none
    some rest

/-- What round brackets hold: a tuple, a single expression or a series. -/
def parenthesized : Reader Expression := fun ts =>
  if startsWith ")" ts then some (.tuple [], ts.drop 1)
  else if startsWith "yield" ts then (yielded read (ts.drop 1)).map (.other, ·)
  else do
    let (first, rest) ← item read ts
    if startsWith ")" rest then
      if first.isStarred then none else some (first, rest.drop 1)
    else display read ")" first .tuple rest

def squareBracketed : Reader Expression := fun ts =>
  if startsWith "]" ts then some (.list [], ts.drop 1)
  else do
    let (first, rest) ← item read ts
    display read "]" first .list rest

/-- An entry of a dictionary; a mapping stands for several entries. -/
def entry : Reader (Expression × Expression) := fun ts =>
  match expect "**" ts with
  | some rest => do
    let (e, rest) ← read .alternative rest
    some ((.other, e), rest)
  | none => do
    let (key, rest) ← read .whole ts
    let rest ← expect ":" rest
    let (value, rest) ← read .whole rest
    some ((key, value), rest)

/-- Further entries up to the closing bracket, behind those that were found. -/
def entries : Nat → List (Expression × Expression) → Reader Expression
  | 0, _, _ => none
  | n + 1, found, ts =>
    match expect "," ts with
    | none => (expect "\x7d" ts).map (.dict found.reverse, ·)
    | some rest =>
      match expect "\x7d" rest with
      | some rest => some (.dict found.reverse, rest)
      | none => do
        let (e, rest) ← entry read rest
        entries n (e :: found) rest

/-- What curly brackets hold: a dictionary or a set. -/
def braced : Reader Expression := fun ts =>
  if startsWith "\x7d" ts then some (.dict [], ts.drop 1)
  else if startsWith "**" ts then do
    let (first, rest) ← entry read ts
    entries read ts.length [first] rest
  else do
    let (first, rest) ← item read ts
    match expect ":" rest with
    | none => display read "\x7d" first .set rest
    | some rest =>
      if first.isStarred || isNaming ts then none
      else do
        let (value, rest) ← read .whole rest
        if isLoop rest then
          let rest ← loops read rest.length rest
          (expect "\x7d" rest).map (.other, ·)
        else entries read ts.length [(first, value)] rest

/-- Which arguments may still come. -/
inductive Arguments where
  | any
  /-- Behind a keyword only keywords and items for several. -/
  | keywords
  /-- Behind a mapping only keywords and mappings. -/
  | mappings
  deriving DecidableEq

/-- One argument, with which ones may come behind it. -/
def argument : Arguments → Reader Arguments
  | allowed, name _ :: symbol "=" :: rest => do
    let (_, rest) ← read .whole rest
    some (if allowed = .any then .keywords else allowed, rest)
  | _, symbol "**" :: rest => do
    let (_, rest) ← read .whole rest
    some (.mappings, rest)
  | allowed, symbol "*" :: rest => do
    if allowed = .mappings then none
    let (_, rest) ← read .whole rest
    some (allowed, rest)
  | allowed, ts => do
    if allowed ≠ .any then none
    let (_, rest) ← named read ts
    some (.any, rest)

/-- Further arguments of a call up to the closing bracket. -/
def arguments : Nat → Arguments → List Token → Option (List Token)
  | 0, _, _ => none
  | n + 1, allowed, ts =>
    match expect "," ts with
    | none => expect ")" ts
    | some rest =>
      match expect ")" rest with
      | some rest => some rest
      | none => do
        let (allowed, rest) ← argument read allowed rest
        arguments n allowed rest

/-- What a call holds: a single series, or arguments. -/
def called (ts : List Token) : Option (List Token) := do
  let (allowed, rest) ← argument read .any ts
  if allowed = .any && !startsWith "*" ts && isLoop rest then
    let rest ← loops read rest.length rest
    expect ")" rest
  else arguments read (ts.length + 1) allowed rest

/-- An optional bound of a slice. -/
def bound (ts : List Token) : Option (List Token) :=
  if startsWith ":" ts || startsWith "," ts || startsWith "]" ts then some ts
  else (read .whole ts).map (·.2)

/-- An index or a slice. -/
def slice (ts : List Token) : Option (List Token) :=
  if startsWith "*" ts then (read .whole (ts.drop 1)).map (·.2)
  else do
    let rest ← if startsWith ":" ts then some ts else (named read ts).map (·.2)
    match expect ":" rest with
    | none => some rest
    | some rest => do
      if isNaming ts then none
      let rest ← bound read rest
      match expect ":" rest with
      | none => some rest
      | some rest => bound read rest

/-- The indices up to the closing bracket, at least one. -/
def subscript : Nat → List Token → Option (List Token)
  | 0, _ => none
  | n + 1, ts => do
    let rest ← slice read ts
    match expect "," rest with
    | some rest =>
      match expect "]" rest with
      | some rest => some rest
      | none => subscript n rest
    | none => expect "]" rest

/-- Attributes, calls and indices behind an expression, at most `n` of them. -/
def trailers : Nat → Expression → Reader Expression
  | 0, e, ts => some (e, ts)
  | n + 1, e, ts =>
    match ts with
    | symbol "." :: name _ :: rest => trailers n .part rest
    | symbol "." :: _ => none
    | symbol "[" :: rest => do
      let rest ← subscript read rest.length rest
      trailers n .part rest
    | symbol "(" :: symbol ")" :: rest =>
      trailers n (match e with | .name true => .emptySet | _ => .other) rest
    | symbol "(" :: rest => do
      let rest ← called read rest
      trailers n .other rest
    | _ => some (e, ts)

/-- How the parameters of a lambda go on. -/
inductive Parameters where
  | plain
  /-- Behind a default all parameters have one. -/
  | defaults
  /-- Behind a lone star a name has to come. -/
  | star
  | keywords
  deriving DecidableEq

/-- The parameters of a lambda up to the colon. `named` tells whether a parameter came, and `slash`
whether the mark behind positional ones may still come. -/
def parameters : Nat → Parameters → Bool → Bool → List Token → Option (List Token)
  | 0, _, _, _, _ => none
  | n + 1, state, found, slash, ts =>
    let next (state : Parameters) (found slash : Bool) (rest : List Token) :=
      match expect "," rest with
      | some rest => parameters n state found slash rest
      | none => if state = .star then none else expect ":" rest
    match ts with
    | symbol ":" :: rest => if state = .star then none else some rest
    | symbol "/" :: rest =>
      if slash && found && (state = .plain || state = .defaults) then next state found false rest
      else none
    | symbol "*" :: name _ :: rest =>
      if state = .plain || state = .defaults then next .keywords true false rest else none
    | symbol "*" :: rest =>
      if state = .plain || state = .defaults then next .star found false rest else none
    | symbol "**" :: name _ :: rest =>
      if state = .star then none else expect ":" ((expect "," rest).getD rest)
    | name _ :: symbol "=" :: rest => do
      let (_, rest) ← read .whole rest
      next (if state = .plain || state = .defaults then .defaults else .keywords) true slash rest
    | name _ :: rest =>
      if state = .defaults then none
      else next (if state = .plain then .plain else .keywords) true slash rest
    | _ => none

end

/-- A run of plain characters of a formatted text, escapes as they stand, and the rest from the brace
that ends it. A doubled brace stands for one, but not in a format; a backslash before a brace stands
for itself. -/
def plainRun? (raw nested : Bool) : Nat → List Char → Option (List Char × List Char)
  | 0, cs => some ([], cs)
  | _ + 1, [] => some ([], [])
  | n + 1, c :: rest =>
    let keep (kept rest : List Char) :=
      (plainRun? raw nested n rest).map fun (cs, r) => (kept ++ cs, r)
    if c = '\\' ∧ ¬ raw then
      match rest with
      | 'N' :: '\x7b' :: more =>
        let name := more.takeWhile (· ≠ '\x7d')
        keep ('\\' :: 'N' :: '\x7b' :: more.take (name.length + 1)) (more.drop (name.length + 1))
      | d :: more => if d = '\x7b' ∨ d = '\x7d' then keep [c, c] rest else keep [c, d] more
      | [] => some ([c], [])
    else if c = '\x7b' ∨ c = '\x7d' then
      if ¬ nested ∧ rest.head? = some c then keep [c] (rest.drop 1)
      else if ¬ nested ∧ c = '\x7d' then none
      else some ([], c :: rest)
    else keep [c] rest

/-- The quote that is open in a field, and whether it is a triple one. -/
abbrev OpenQuote := Option (Char × Bool)

/-- The text of an expression within a formatted text, up to what ends it outside of quotes and
brackets, and the rest from there on. -/
def fieldText? (quote : OpenQuote) (opened text : List Char) :
    List Char → Option (List Char × List Char)
  | [] => none
  | c :: rest =>
    if c = '\\' then none
    else
      match quote with
      | some (q, triple) =>
        if c ≠ q then fieldText? quote opened (c :: text) rest
        else if !triple then fieldText? none opened (c :: text) rest
        else
          match rest with
          | d :: e :: more =>
            if d = q ∧ e = q then fieldText? none opened (e :: d :: c :: text) more
            else fieldText? quote opened (c :: text) (d :: e :: more)
          | rest => fieldText? quote opened (c :: text) rest
      | none =>
        if c = '\'' ∨ c = '"' then
          match rest with
          | d :: e :: more =>
            if d = c ∧ e = c then fieldText? (some (c, true)) opened (e :: d :: c :: text) more
            else fieldText? (some (c, false)) opened (c :: text) (d :: e :: more)
          | rest => fieldText? (some (c, false)) opened (c :: text) rest
        else if c = '(' then fieldText? none (')' :: opened) (c :: text) rest
        else if c = '[' then fieldText? none (']' :: opened) (c :: text) rest
        else if c = '\x7b' then fieldText? none ('\x7d' :: opened) (c :: text) rest
        else if c = '#' then none
        else
          match opened with
          | closing :: outer =>
            if c = closing then fieldText? none outer (c :: text) rest
            else if c = ')' ∨ c = ']' ∨ c = '\x7d' then none
            else fieldText? none opened (c :: text) rest
          | [] =>
            if c = ')' ∨ c = ']' then none
            else if c = ':' ∨ c = '\x7d' then some (text.reverse, c :: rest)
            else if c = '!' ∨ c = '=' ∨ c = '<' ∨ c = '>' then
              match rest with
              | '=' :: more => fieldText? none [] ('=' :: c :: text) more
              | rest =>
                if c = '<' ∨ c = '>' then fieldText? none [] (c :: text) rest
                else some (text.reverse, c :: rest)
            else fieldText? none [] (c :: text) rest

/-- The mark that asks for the expression's own text, and one that chooses the way of printing. -/
def fieldMarks? (cs : List Char) : Option (List Char) :=
  let cs := match cs with
    | '=' :: rest => rest.dropWhile fun c => c == ' ' || ('\t' ≤ c && c ≤ '\r')
    | cs => cs
  match cs with
  | '!' :: c :: rest => if c = 's' ∨ c = 'r' ∨ c = 'a' then some rest else none
  | '!' :: [] => none
  | cs => some cs

/-- Leaves out what a formatted text may hold: plain characters, and fields with expressions that
`holds` accepts. A format, which ends at a brace, may hold fields itself, but no deeper ones. -/
def formatted? (holds : List Char → Bool) (raw : Bool) : Nat → Nat → List Char → Option (List Char)
  | 0, _, _ => none
  | n + 1, level, cs => do
    let (plain, rest) ← plainRun? raw (0 < level) cs.length cs
    let _ ← codes? false raw plain.length plain
    match rest with
    | [] => some []
    | '\x7b' :: rest => do
      if 2 ≤ level then none
      let (text, rest) ← fieldText? none [] [] rest
      if !holds text then none
      let rest ← fieldMarks? rest
      let rest ← match rest with
        | ':' :: rest => formatted? holds raw n (level + 1) rest
        | rest => some rest
      match rest with
      | '\x7d' :: rest => formatted? holds raw n level rest
      | _ => none
    | rest => if level = 0 then none else some rest

section
variable (read : Grade → Reader Expression)

/-- Whether a text is an expression once it stands in brackets. -/
def holdsExpression (text : List Char) : Bool :=
  !(text.all fun c => [' ', '\t', '\n', '\x0c', '\r'].contains c) &&
    match tokensFrom? (text.length + 3) [] [] ('(' :: text ++ [')']) with
    | some (symbol "(" :: ts, []) =>
      match parenthesized read ts with
      | some (_, []) => true
      | _ => false
    | _ => false

def isQuotation (q : Quotation) : Bool :=
  if q.mark.formatted then
    formatted? (holdsExpression read) q.mark.raw (q.inner.length + 2) 0 q.inner == some []
  else q.codes?.isSome

/-- The quotations that stand beside each other. -/
def quotations : List Token → List Quotation × List Token
  | quotation q :: rest =>
    let (qs, rest) := quotations rest
    (q :: qs, rest)
  | ts => ([], ts)

/-- Quotations as one; one with a formatted text among them is no constant. -/
def quoted : Reader Expression := fun ts =>
  let (qs, rest) := quotations ts
  if qs.any (·.mark.formatted) then
    if qs.all (isQuotation read) && !qs.any (·.mark.bytes) then some (.other, rest) else none
  else (joined? qs).map (.constant ·, rest)

/-- A name, a constant or something in brackets. -/
def atom : Reader Expression
  | name word :: rest => some (.name (Text.namesSet word), rest)
  | number v :: rest => some (.constant v, rest)
  | quotation q :: rest => quoted read (quotation q :: rest)
  | symbol "None" :: rest => some (.constant .null, rest)
  | symbol "True" :: rest => some (.constant (.bool true), rest)
  | symbol "False" :: rest => some (.constant (.bool false), rest)
  | symbol "..." :: rest => some (.constant .ellipsis, rest)
  | symbol "(" :: rest => parenthesized read rest
  | symbol "[" :: rest => squareBracketed read rest
  | symbol "\x7b" :: rest => braced read rest
  | _ => none

def primary : Reader Expression := fun ts => do
  let (e, rest) ← atom read ts
  trailers read ts.length e rest

/-- A primary, awaited or not, and the power it is raised to. -/
def power : Reader Expression := fun ts => do
  let (e, rest) ← match expect "await" ts with
    | some rest => (read .primary rest).map fun (_, rest) => (.other, rest)
    | none => read .primary ts
  match expect "**" rest with
  | some rest => (read .factor rest).map fun (_, rest) => (.other, rest)
  | none => some (e, rest)

def factor : Reader Expression
  | symbol "+" :: rest => (read .factor rest).map fun (e, rest) => (.signed false e, rest)
  | symbol "-" :: rest => (read .factor rest).map fun (e, rest) => (.signed true e, rest)
  | symbol "~" :: rest => (read .factor rest).map fun (_, rest) => (.other, rest)
  | ts => read .power ts

def inversion : Reader Expression
  | symbol "not" :: rest => (read .inversion rest).map fun (_, rest) => (.other, rest)
  | ts => read .comparison ts

/-- A lambda, a choice between two, or a disjunction. -/
def whole : Reader Expression
  | symbol "lambda" :: rest => do
    let rest ← parameters read (rest.length + 1) .plain false true rest
    (read .whole rest).map fun (_, rest) => (.other, rest)
  | ts => do
    let (e, rest) ← read .disjunction ts
    match expect "if" rest with
    | none => some (e, rest)
    | some rest => do
      let (_, rest) ← read .disjunction rest
      let rest ← expect "else" rest
      (read .whole rest).map fun (_, rest) => (.other, rest)

/-- An expression of a grade, given how those within it are read. -/
def ofGrade : Grade → Reader Expression
  | .whole => whole read
  | .disjunction => chain (symbolOf ["or"]) (read .conjunction) joinOther
  | .conjunction => chain (symbolOf ["and"]) (read .inversion) joinOther
  | .inversion => inversion read
  | .comparison => chain comparisonSign (read .alternative) joinOther
  | .alternative => chain (symbolOf ["|"]) (read .exclusive) joinOther
  | .exclusive => chain (symbolOf ["^"]) (read .common) joinOther
  | .common => chain (symbolOf ["&"]) (read .shifted) joinOther
  | .shifted => chain (symbolOf ["<<", ">>"]) (read .sum) joinOther
  | .sum => chain (symbolOf ["+", "-"]) (read .product) joinSum
  | .product => chain (symbolOf ["*", "/", "//", "%", "@"]) (read .factor) joinOther
  | .factor => factor read
  | .power => power read
  | .primary => primary read

end

/-- An expression of a grade whose parts nest at most so deep. -/
def expression : Nat → Grade → Reader Expression
  | 0 => fun _ _ => none
  | n + 1 => ofGrade (expression n)

/-- How deep parts can nest in an expression of so many characters: each bracket or prefix may take
every grade. -/
def nestingFor (length : Nat) : Nat := 16 * length + 16

/-- The expression that the tokens of a text of so many characters are: items with a comma are a
tuple. An empty symbol marks the end. -/
def wholeExpression? (length : Nat) (tokens : List Token) : Option Expression := do
  let ts := tokens ++ [symbol ""]
  let item := expression (nestingFor length) .whole
  let ((items, comma), _) ← itemsUntil item "" ts.length false [] ts
  match items, comma with
  | [], _ => none
  | [e], false => some e
  | items, _ => some (.tuple items)

end MacroStubs.Literal
