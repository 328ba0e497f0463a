import MacroStubs.Text.Blank

/-! # Docstrings

Cleaning removes the indentation that a docstring owes to its place in a program: tabs become
blanks, the first line loses its indentation, the later ones the least indentation that a later
line with content has, and empty lines at the two ends go. Escaping makes a docstring fit between
triple quotes.
-/

namespace MacroStubs.Text

/-- Tabs filled up with blanks to the next column that eight divides. -/
def expandTabs (column : Nat) : List Char → List Char
  | [] => []
  | c :: rest =>
    if c = '\t' then
      List.replicate (8 - column % 8) ' ' ++ expandTabs (column + (8 - column % 8)) rest
    else if c = '\n' ∨ c = '\r' then c :: expandTabs 0 rest
    else c :: expandTabs (column + 1) rest

/-- How many blanks a line with content begins with. -/
def indentation? (line : List Char) : Option Nat :=
  if line.all isBlank then none else some (line.takeWhile isBlank).length

/-- The least indentation of the lines with content. -/
def margin (lines : List (List Char)) : Nat :=
  (lines.filterMap indentation?).min?.getD 0

/-- The lines without the empty ones at the two ends. -/
def dropEmptyEnds (lines : List (List Char)) : List (List Char) :=
  ((lines.reverse.dropWhile List.isEmpty).reverse).dropWhile List.isEmpty

def cleanLines : List (List Char) → List (List Char)
  | [] => []
  | first :: later =>
    dropEmptyEnds (first.dropWhile isBlank :: later.map (·.drop (margin later)))

/-- A docstring without the indentation that it owes to its place. -/
def clean (doc : List Char) : List Char :=
  join '\n' (cleanLines (splitOn '\n' (expandTabs 0 doc)))

/-- The cleaned docstring, none for a blank one. -/
def cleanDocstring (doc : String) : Option String :=
  if isBlankText doc then none else some (String.ofList (clean doc.toList))

/-- Backslashes doubled and each run of three double quotes escaped. -/
def escapeTriples : List Char → List Char
  | [] => []
  | '"' :: '"' :: '"' :: rest => '\\' :: '"' :: '\\' :: '"' :: '\\' :: '"' :: escapeTriples rest
  | '\\' :: rest => '\\' :: '\\' :: escapeTriples rest
  | c :: rest => c :: escapeTriples rest

/-- A double quote at the end gets a backslash in front. -/
def escapeLastQuote (cs : List Char) : List Char :=
  if cs.getLast? = some '"' then cs.dropLast ++ ['\\', '"'] else cs

/-- A docstring as it stands between triple quotes. -/
def escapeDocstring (doc : List Char) : List Char :=
  escapeLastQuote (escapeTriples doc)

end MacroStubs.Text
