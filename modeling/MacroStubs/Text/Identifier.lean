import MacroStubs.Text.Blank
import MacroStubs.Text.IdentifierTable

/-! # Declarable names

A name can be declared as a method of a stub when it is an identifier and no keyword.
-/

namespace MacroStubs.Text

/-- The words that a name must not be. -/
def keywords : List String :=
  ["False", "None", "True", "and", "as", "assert", "async", "await", "break", "class", "continue",
   "def", "del", "elif", "else", "except", "finally", "for", "from", "global", "if", "import",
   "in", "is", "lambda", "nonlocal", "not", "or", "pass", "raise", "return", "try", "while",
   "with", "yield"]

def isIdentifierStart (c : Char) : Bool :=
  if c.toNat < 128 then c.isAlpha || c == '_' else within identifierStartBounds c.toNat

def isIdentifierContinue (c : Char) : Bool :=
  if c.toNat < 128 then c.isAlphanum || c == '_' else within identifierContinueBounds c.toNat

def isIdentifier (s : String) : Bool :=
  match s.toList with
  | [] => false
  | c :: rest => isIdentifierStart c && rest.all isIdentifierContinue

def isKeyword (s : String) : Bool :=
  keywords.contains s

/-- Whether a stub can declare a method of this name. -/
def isDeclarable (s : String) : Bool :=
  isIdentifier s && !isKeyword s

/-- No declarable name holds a character that stands in no identifier. -/
theorem not_mem_of_isDeclarable {name : String} (h : isDeclarable name = true) {c : Char}
    (hs : isIdentifierStart c = false) (hc : isIdentifierContinue c = false) :
    c ∉ name.toList := by
  intro hm
  obtain ⟨hi, -⟩ := Bool.and_eq_true_iff.mp h
  rw [isIdentifier] at hi
  cases hn : name.toList with
  | nil => rw [hn] at hm; cases hm
  | cons first rest =>
    rw [hn] at hi hm
    obtain ⟨hfirst, hrest⟩ := Bool.and_eq_true_iff.mp hi
    rcases List.mem_cons.mp hm with rfl | hm
    · exact absurd (hs.symm.trans hfirst) nofun
    · exact absurd (hc.symm.trans (List.all_eq_true.mp hrest c hm)) nofun

/-- The characters whose compatible form is the letter `s`, `e` or `t`, or `s` before `t`. -/
def compatibleLetters : List (String × List Nat) := [
  ("s", [0x17f, 0x2e2, 0x209b, 0xff53, 0x1d42c, 0x1d460, 0x1d494, 0x1d4c8, 0x1d4fc, 0x1d530,
    0x1d564, 0x1d598, 0x1d5cc, 0x1d600, 0x1d634, 0x1d668, 0x1d69c]),
  ("e", [0x1d49, 0x2091, 0x212f, 0x2147, 0xff45, 0x1d41e, 0x1d452, 0x1d486, 0x1d4ee, 0x1d522,
    0x1d556, 0x1d58a, 0x1d5be, 0x1d5f2, 0x1d626, 0x1d65a, 0x1d68e]),
  ("t", [0x1d57, 0x209c, 0xff54, 0x1d42d, 0x1d461, 0x1d495, 0x1d4c9, 0x1d4fd, 0x1d531, 0x1d565,
    0x1d599, 0x1d5cd, 0x1d601, 0x1d635, 0x1d669, 0x1d69d]),
  ("st", [0xfb05, 0xfb06])]

/-- The letters that a character stands for in an identifier, as far as they occur in `set`. -/
def compatible (c : Char) : List Char :=
  match compatibleLetters.find? fun (_, codes) => codes.contains c.toNat with
  | some (letters, _) => letters.toList
  | none => [c]

/-- Whether an identifier names the type of sets; identifiers are compared in compatible form. -/
def namesSet (word : List Char) : Bool :=
  word.flatMap compatible == "set".toList

end MacroStubs.Text
