import MacroStubs.Text.LetterCaseTable
import MacroStubs.Text.TitleCaseTable

/-! # Upper and lower case

Texts with every letter in upper or in lower case. One letter may become several.
-/

namespace MacroStubs.Text

/-- The letter beside a letter in a table of runs. -/
def beside? (runs : List (Nat × Nat × Nat × Int)) (c : Char) : Option Char :=
  let n := c.toNat
  (runs.find? fun (first, last, step, _) =>
    first ≤ n && n ≤ last && (n - first) % step = 0).map fun (_, _, _, distance) =>
      Char.ofNat ((n : Int) + distance).toNat

def upperChars (c : Char) : List Char :=
  match upperSequences.lookup c.toNat with
  | some sequence => sequence.map Char.ofNat
  | none => [(beside? upperRuns c).getD c]

def lowerChars (c : Char) : List Char :=
  if c = 'İ' then ['i', '\u0307'] else [(beside? lowerRuns c).getD c]

/-- What a letter becomes at the head of a word. -/
def titleChars (c : Char) : List Char :=
  match titleSequences.lookup c.toNat with
  | some sequence => sequence.map Char.ofNat
  | none => ((beside? titleRuns c).map ([·])).getD (upperChars c)

/-- What a letter becomes where case does not count. -/
def foldedChars (c : Char) : List Char :=
  match foldedSequences.lookup c.toNat with
  | some sequence => sequence.map Char.ofNat
  | none => ((beside? foldedRuns c).map ([·])).getD (lowerChars c)

def upper (cs : List Char) : List Char := cs.flatMap upperChars

def folded (cs : List Char) : List Char := cs.flatMap foldedChars

end MacroStubs.Text
