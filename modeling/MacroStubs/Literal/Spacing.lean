/-! # Spacing

The blanks, comments and continued lines between the words of an expression.
-/

namespace MacroStubs.Literal

/-- What the characters so far leave open. -/
inductive Gap where
  | plain
  | comment
  /-- A backslash that has to be followed by a line feed. -/
  | backslash
  /-- A continued line, which must not be empty. -/
  | continued

/-- Leaves out blanks and comments; a line feed is a blank only `inside` brackets. -/
def skipFrom (inside : Bool) : Gap → List Char → Option (List Char)
  | .plain, [] => some []
  | .comment, [] => some []
  | .backslash, [] => none
  | .continued, [] => none
  | .backslash, c :: rest => if c = '\n' then skipFrom inside .continued rest else none
  | .comment, c :: rest =>
    if c = '\n' then (if inside then skipFrom inside .plain rest else some (c :: rest))
    else skipFrom inside .comment rest
  | _, c :: rest =>
    if c = ' ' ∨ c = '\t' ∨ c = '\x0c' then skipFrom inside .plain rest
    else if c = '#' then skipFrom inside .comment rest
    else if c = '\\' then skipFrom inside .backslash rest
    else if c = '\n' ∧ inside then skipFrom inside .plain rest
    else some (c :: rest)

def skip (inside : Bool) (cs : List Char) : Option (List Char) := skipFrom inside .plain cs

/-- Leaves out lines that hold blanks and comments only. None if the first line with content, or an
unfinished last one, is indented; a form feed ends an indentation, and a continued line keeps it. -/
def lineStartFrom (indented held : Bool) : Gap → List Char → Option (List Char)
  | .plain, [] => if indented || held then none else some []
  | .comment, [] => some []
  | .backslash, [] => none
  | .continued, [] => none
  | .backslash, c :: rest =>
    if c = '\n' then lineStartFrom indented (held || indented) .continued rest else none
  | .comment, c :: rest =>
    if c = '\n' then lineStartFrom false false .plain rest
    else lineStartFrom indented held .comment rest
  | _, c :: rest =>
    if c = ' ' ∨ c = '\t' then lineStartFrom true held .plain rest
    else if c = '\x0c' then lineStartFrom false held .plain rest
    else if c = '#' then lineStartFrom indented held .comment rest
    else if c = '\n' then lineStartFrom false false .plain rest
    else if c = '\\' then lineStartFrom indented held .backslash rest
    else if indented || held then none
    else some (c :: rest)

def lineStart (cs : List Char) : Option (List Char) := lineStartFrom false false .plain cs

end MacroStubs.Literal
