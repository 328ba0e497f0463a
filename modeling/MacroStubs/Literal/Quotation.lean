import MacroStubs.Literal.Numeral
import MacroStubs.Text.CharacterName

/-! # Quotations

The texts and bytes of an expression: the marks before the opening quote, the characters up to the
closing one, and what they denote with their escapes.
-/

namespace MacroStubs.Literal
open Number

/-- What the letters before a quote ask for. -/
structure Mark where
  bytes : Bool := false
  /-- Escapes are kept as they stand. -/
  raw : Bool := false
  /-- Braces hold expressions. -/
  formatted : Bool := false
  deriving DecidableEq, Repr

def Mark.ofLetters? (letters : List Char) : Option Mark :=
  match letters.map Char.toLower with
  | [] => some {}
  | ['u'] => some {}
  | ['r'] => some { raw := true }
  | ['b'] => some { bytes := true }
  | ['f'] => some { formatted := true }
  | ['b', 'r'] => some { bytes := true, raw := true }
  | ['r', 'b'] => some { bytes := true, raw := true }
  | ['f', 'r'] => some { raw := true, formatted := true }
  | ['r', 'f'] => some { raw := true, formatted := true }
  | _ => none

/-- A mark and the rest from the quote on. -/
def mark? (cs : List Char) : Option (Mark × List Char) :=
  let letters := (cs.take 3).takeWhile Char.isAlpha
  match cs.drop letters.length with
  | c :: rest =>
    if c = '"' ∨ c = '\'' then (Mark.ofLetters? letters).map (·, c :: rest) else none
  | [] => none

/-- A text or bytes with its mark, escapes as they stand. -/
structure Quotation where
  mark : Mark
  inner : List Char
  deriving DecidableEq, Repr

/-- The characters up to the closing quote. `triple` quotations end at three quotes and may hold line
feeds. -/
def body? (quote : Char) (triple : Bool) : List Char → Option (List Char × List Char)
  | [] => none
  | '\\' :: c :: rest => (body? quote triple rest).map fun (cs, r) => ('\\' :: c :: cs, r)
  | c :: rest =>
    if c = quote then
      if !triple then some ([], rest)
      else
        match rest with
        | d :: e :: more =>
          if d = quote ∧ e = quote then some ([], more)
          else (body? quote triple rest).map fun (cs, r) => (c :: cs, r)
        | _ => none
    else if c = '\n' ∧ ¬ triple then none
    else (body? quote triple rest).map fun (cs, r) => (c :: cs, r)

def Quotation.read? (cs : List Char) : Option (Quotation × List Char) := do
  let (mark, rest) ← mark? cs
  match rest with
  | q :: q' :: q'' :: more =>
    let (inner, r) ← if q' = q ∧ q'' = q then body? q true more else body? q false (q' :: q'' :: more)
    some ({ mark, inner }, r)
  | q :: more => do
    let (inner, r) ← body? q false more
    some ({ mark, inner }, r)
  | [] => none

/-- The number that so many hexadecimal digits denote, and the rest. -/
def hexNumber? (count : Nat) (cs : List Char) : Option (Nat × List Char) :=
  let ds := cs.take count
  if ds.length = count ∧ ds.all isHexDigit then some (natOfBase 16 ds, cs.drop count) else none

/-- The code of the replacement mark. -/
def replacement : Nat := 0xfffd

/-- The character of a code; a code that is none stands for itself as a replacement mark. -/
def charOf (n : Nat) : Char :=
  if Nat.isValidChar n then Char.ofNat n else Char.ofNat replacement

def isOctalDigit (c : Char) : Bool := '0' ≤ c && c ≤ '7'

def simpleEscape? (c : Char) : Option Nat :=
  if c = '\\' ∨ c = '\'' ∨ c = '"' then some c.toNat
  else if c = 'a' then some 7
  else if c = 'b' then some 8
  else if c = 't' then some 9
  else if c = 'n' then some 10
  else if c = 'v' then some 11
  else if c = 'f' then some 12
  else if c = 'r' then some 13
  else none

/-- A name in braces. Which character it names does not tell a text from another one that is no
literal, so every named character stands as a replacement mark. -/
def namedEscape? : List Char → Option (List Nat × List Char)
  | '\x7b' :: more =>
    let name := more.takeWhile (· ≠ '\x7d')
    match more.drop name.length with
    | _ :: r => if Text.isCharacterName name then some ([replacement], r) else none
    | [] => none
  | _ => none

/-- What an escape denotes, given the characters behind its backslash: codes, none for a continued
line, and the rest. A backslash before any other character stands for itself. -/
def escape? (bytes : Bool) : List Char → Option (List Nat × List Char)
  | [] => none
  | c :: rest =>
    if c = '\n' then some ([], rest)
    else if let some n := simpleEscape? c then some ([n], rest)
    else if isOctalDigit c then
      let ds := c :: (rest.take 2).takeWhile isOctalDigit
      some ([natOfBase 8 ds], rest.drop (ds.length - 1))
    else if c = 'x' then (hexNumber? 2 rest).map fun (n, r) => ([n], r)
    else if bytes then some (['\\'.toNat, c.toNat], rest)
    else if c = 'u' then (hexNumber? 4 rest).map fun (n, r) => ([n], r)
    else if c = 'U' then
      (hexNumber? 8 rest).bind fun (n, r) => if n ≤ 0x10ffff then some ([n], r) else none
    else if c = 'N' then namedEscape? rest
    else some (['\\'.toNat, c.toNat], rest)

/-- The codes that the characters between quotes denote. Each step takes a character at least, so
the length of the text bounds their number. -/
def codes? (bytes raw : Bool) : Nat → List Char → Option (List Nat)
  | 0, _ => some []
  | _ + 1, [] => some []
  | n + 1, c :: rest =>
    if c = '\\' ∧ ¬ raw then do
      let (ns, r) ← escape? bytes rest
      (codes? bytes raw n r).map (ns ++ ·)
    else (codes? bytes raw n rest).map (c.toNat :: ·)

/-- The characters or bytes that a plain quotation denotes. -/
def Quotation.codes? (q : Quotation) : Option (List Nat) :=
  if q.mark.bytes && q.inner.any (fun c => 128 ≤ c.toNat) then none
  else Literal.codes? q.mark.bytes q.mark.raw q.inner.length q.inner

/-- Plain quotations that stand beside each other are one, if all or none of them are bytes. -/
def joined? (quotations : List Quotation) : Option Value := do
  let codes ← quotations.mapM Quotation.codes?
  if quotations.all (·.mark.bytes) then
    some (.bytes (codes.flatten.map fun n => UInt8.ofNat n))
  else if quotations.any (·.mark.bytes) then none
  else some (.str (String.ofList (codes.flatten.map charOf)))

end MacroStubs.Literal
