import MacroStubs.Literal.Quotation
import MacroStubs.Literal.Spacing
import MacroStubs.Text.Identifier

/-! # Tokens of expressions

The words, numbers, quotations and symbols of an expression. Brackets must match and nest at most
200 deep; outside of them a line feed ends the expression.
-/

namespace MacroStubs.Literal

inductive Token where
  | name (word : List Char)
  | number (value : Value)
  | quotation (q : Quotation)
  /-- An operator, a bracket or a reserved word. -/
  | symbol (text : String)
  deriving Inhabited

/-- The symbols that are no words, those of more characters first. -/
def symbols : List String :=
  ["...", "**=", "//=", ">>=", "<<=", "!=", "%=", "&=", "**", "*=", "+=", "-=", "->", "//", "/=", ":=",
   "<<", "<=", "==", ">=", ">>", "@=", "^=", "|=", "%", "&", "(", ")", "*", "+", ",", "-", ".", "/",
   ":", ";", "<", "=", ">", "@", "[", "]", "^", "\x7b", "|", "\x7d", "~"]

def symbol? (cs : List Char) : Option (Token × List Char) :=
  (symbols.find? fun s => s.toList.isPrefixOf cs).map fun s => (.symbol s, cs.drop s.length)

/-- A reserved word or an identifier. -/
def word? (cs : List Char) : Option (Token × List Char) :=
  let word := cs.takeWhile isWordChar
  let rest := cs.dropWhile isWordChar
  let text := String.ofList word
  if Text.isKeyword text then some (.symbol text, rest)
  else if Text.isIdentifier text then some (.name word, rest)
  else none

def Token.read? (cs : List Char) : Option (Token × List Char) :=
  match cs with
  | [] => none
  | c :: rest =>
    if Number.isDigit c || (c == '.' && rest.head?.any Number.isDigit) then
      (number? cs).map fun (v, r) => (.number v, r)
    else if (mark? cs).isSome then (Quotation.read? cs).map fun (q, r) => (.quotation q, r)
    else if isWordChar c then word? cs
    else symbol? cs

def maxBrackets : Nat := 200

/-- The brackets that are open behind a symbol, each as the one that closes it, the innermost first.
None if a bracket does not match or nests too deep. -/
def brackets? (opened : List String) (text : String) : Option (List String) :=
  match [("(", ")"), ("[", "]"), ("\x7b", "\x7d")].lookup text with
  | some closing => if opened.length < maxBrackets then some (closing :: opened) else none
  | none =>
    if text = ")" ∨ text = "]" ∨ text = "\x7d" then
      match opened with
      | closing :: outer => if closing = text then some outer else none
      | [] => none
    else some opened

def Token.brackets? (opened : List String) : Token → Option (List String)
  | symbol text => Literal.brackets? opened text
  | _ => some opened

/-- The tokens up to the end of the line, and the rest from there on. Each step takes a character at
least, so the length of the text bounds their number. -/
def tokensFrom? : Nat → List String → List Token → List Char → Option (List Token × List Char)
  | 0, _, _, _ => none
  | n + 1, opened, read, cs => do
    let cs ← skip (!opened.isEmpty) cs
    if cs.isEmpty || cs.head? = some '\n' then
      if opened.isEmpty then some (read.reverse, cs) else none
    else
      let (token, rest) ← Token.read? cs
      let opened ← token.brackets? opened
      tokensFrom? n opened (token :: read) rest

/-- The tokens of a whole text, around whose only line with content lines with blanks and comments may
stand. -/
def tokens? (cs : List Char) : Option (List Token) := do
  let cs ← lineStart cs
  let (tokens, rest) ← tokensFrom? (cs.length + 1) [] [] cs
  match rest with
  | [] => some tokens
  | _ :: more => do
    let more ← lineStart more
    if more.isEmpty then some tokens else none

end MacroStubs.Literal
