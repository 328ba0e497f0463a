import MacroStubs.Text.Blank

/-! # Occurrences

Where a text occurs in another one, and the pieces of a text between occurrences and between blanks.
-/

namespace MacroStubs.Text

/-- The places where a text stands in another one, given the place where the search starts. -/
def places (needle : List Char) (start : Nat) : List Char → List Nat
  | [] => if needle.isEmpty then [start] else []
  | c :: rest =>
    let later := places needle (start + 1) rest
    if needle.isPrefixOf (c :: rest) then start :: later else later

/-- The first places of occurrences of a width, none within another one, at most `n`. -/
def apart (width : Nat) : Nat → List Nat → List Nat
  | 0, _ => []
  | _, [] => []
  | n + 1, p :: rest => p :: apart width n (rest.filter fun q => p + max width 1 ≤ q)

/-- Cuts a text at places of a given width. -/
def cut (width : Nat) (cs : List Char) (start : Nat) : List Nat → List (List Char)
  | [] => [cs.drop start]
  | p :: rest => (cs.drop start).take (p - start) :: cut width cs (p + width) rest

/-- The pieces of a text between the first `n` occurrences of another one. -/
def piecesAt (separator cs : List Char) (n : Nat) : List (List Char) :=
  cut separator.length cs 0 (apart separator.length n (places separator 0 cs))

/-- The pieces of a text between the last `n` occurrences of another one. -/
def piecesAtLast (separator cs : List Char) (n : Nat) : List (List Char) :=
  ((piecesAt separator.reverse cs.reverse n).map List.reverse).reverse

/-- The words of a text: at most `n`, and then the rest. -/
def words (blank : Char → Bool) : Nat → Nat → List Char → List (List Char)
  | 0, _, _ => []
  | fuel + 1, n, cs =>
    match cs.dropWhile blank with
    | [] => []
    | rest =>
      match n with
      | 0 => [rest]
      | n + 1 => rest.takeWhile (!blank ·) :: words blank fuel n (rest.dropWhile (!blank ·))

/-- The first `n` words of a text, and the rest. -/
def firstWords (blank : Char → Bool) (n : Nat) (cs : List Char) : List (List Char) :=
  words blank (cs.length + 1) n cs

/-- The last `n` words of a text behind the rest. -/
def lastWords (blank : Char → Bool) (n : Nat) (cs : List Char) : List (List Char) :=
  ((firstWords blank n cs.reverse).map List.reverse).reverse

/-- A text without the characters at its ends that pass a test. -/
def stripped (left right : Bool) (p : Char → Bool) (cs : List Char) : List Char :=
  let cs := if left then cs.dropWhile p else cs
  if right then dropEndWhile p cs else cs

/-- A text with another one in the place of the first `n` occurrences of a third. An empty text occurs
before every character and at the end. -/
def replaced (old new cs : List Char) (n : Nat) : List Char :=
  if old.isEmpty then
    (cs.take n).flatMap (new ++ [·]) ++ cs.drop n ++ (if cs.length < n then new else [])
  else new.intercalate (piecesAt old cs n)

/-- A text between as many characters as make it a given width, the odd one on the left if the width
is odd. -/
def centred (width : Nat) (fill : Char) (cs : List Char) : List Char :=
  let pad := width - cs.length
  let left := pad / 2 + (if pad % 2 = 1 ∧ width % 2 = 1 then 1 else 0)
  List.replicate left fill ++ cs ++ List.replicate (pad - left) fill

/-- A number filled with zeros up to a width, behind its sign. -/
def zeroFilled (width : Nat) (cs : List Char) : List Char :=
  let zeros := List.replicate (width - cs.length) '0'
  match cs with
  | '+' :: rest => '+' :: zeros ++ rest
  | '-' :: rest => '-' :: zeros ++ rest
  | cs => zeros ++ cs

/-- Every tab as blanks up to the next column that the size divides. -/
def withoutTabs (size column : Nat) : List Char → List Char
  | [] => []
  | '\t' :: rest =>
    let n := if size = 0 then 0 else size - column % size
    List.replicate n ' ' ++ withoutTabs size (column + n) rest
  | c :: rest => c :: withoutTabs size (if c = '\n' || c = '\r' then 0 else column + 1) rest

/-- The lines of a text, each with the boundary behind it. -/
def linesWithEnds (boundary : Char → Bool) : List Char → List (List Char)
  | [] => []
  | '\r' :: '\n' :: rest => ['\r', '\n'] :: linesWithEnds boundary rest
  | c :: rest =>
    if boundary c then [c] :: linesWithEnds boundary rest
    else
      match linesWithEnds boundary rest with
      | [] => [[c]]
      | line :: later => (c :: line) :: later

/-- The lines of a text, with or without the boundaries behind them. -/
def linesAt (boundary : Char → Bool) (keep : Bool) (cs : List Char) : List (List Char) :=
  (linesWithEnds boundary cs).map fun line => if keep then line else line.filter (!boundary ·)

end MacroStubs.Text
