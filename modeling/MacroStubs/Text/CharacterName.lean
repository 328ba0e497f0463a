import MacroStubs.Text.CharacterNames.AToB
import MacroStubs.Text.CharacterNames.CToG
import MacroStubs.Text.CharacterNames.HToL
import MacroStubs.Text.CharacterNames.MToR
import MacroStubs.Text.CharacterNames.SToZ

/-! # Character names

The names of characters in Unicode 14 with their aliases. Most stand in a table that is written by
words: behind a word stand in brackets the words that may follow it, a point among them says that
the words so far are a name by themselves, and a low line stands for a blank. `A01~32` is a run of
decimal numbers and `X-2F00^2F05` one of hexadecimal numbers. Ideographs and Hangul syllables are
named by rule.
-/

namespace MacroStubs.Text

namespace CharacterNames

def table : List (List String) :=
  [initialAToB, initialCToG, initialHToL, initialMToR, initialSToZ]

/-- What is left of a name behind a blank and an item. -/
def behind? : List Char → List Char → Option (List Char)
  | item, ' ' :: name => go item name
  | _, _ => none
where
  go : List Char → List Char → Option (List Char)
    | [], name => some name
    | c :: item, d :: name => if (if c = '_' then ' ' else c) = d then go item name else none
    | _ :: _, [] => none

def digitOf? (base : Nat) (c : Char) : Option Nat :=
  let n := if c.isDigit then c.toNat - '0'.toNat else c.toNat - 'A'.toNat + 10
  if (c.isDigit || c.isUpper) && n < base then some n else none

def numberOf? (base : Nat) (ds : List Char) : Option Nat :=
  ds.foldlM (fun n c => (digitOf? base c).map (base * n + ·)) 0

/-- Whether a run from `first` to the number `last` holds what is left of a name. Of `first` only the
last digits count on. -/
def isInRun (base : Nat) (first last name : List Char) : Bool :=
  let stem := first.take (first.length - last.length)
  match behind? stem name, numberOf? base (first.drop stem.length), numberOf? base last with
  | some digits, some low, some high =>
    digits.length == last.length &&
      (numberOf? base digits).any fun n => low ≤ n && n ≤ high
  | _, _, _ => false

/-- Whether an item ends a name of which `name` is left. -/
def ends (item name : List Char) : Bool :=
  if item = ['.'] then name.isEmpty
  else
    match item.span (· ≠ '~'), item.span (· ≠ '^') with
    | (first, _ :: last), _ => isInRun 10 first last name
    | _, (first, _ :: last) => isInRun 16 first last name
    | _, _ => behind? item name == some []

/-- How far the table has been read. -/
structure Search where
  /-- The item that is being read, its last character first. -/
  item : List Char
  /-- What is left of the name behind each open item, the innermost first; none behind an item that
  does not lead to the name. -/
  left : List (Option (List Char))
  found : Bool

namespace Search

def start (name : List Char) : Search := { item := [], left := [some (' ' :: name)], found := false }

def here (s : Search) : Option (List Char) := s.left.head?.join

def endItem (s : Search) : Search :=
  match s.item, s.here with
  | _ :: _, some name => { s with item := [], found := s.found || ends s.item.reverse name }
  | _, _ => { s with item := [] }

def openItem (s : Search) : Search :=
  { s with item := [], left := (s.here.bind (behind? s.item.reverse)) :: s.left }

def next (s : Search) (c : Char) : Search :=
  if c = ' ' then s.endItem
  else if c = '(' then s.openItem
  else if c = ')' then { s.endItem with left := s.left.drop 1 }
  else { s with item := c :: s.item }

def line (s : Search) (text : String) : Search := (text.foldl next s).endItem

end Search

/-- Whether the table holds a name, given in capitals. -/
def holds (name : List Char) : Bool :=
  table.any fun lines => (lines.foldl Search.line (Search.start name)).found

/-- The first and last codes of the ideographs that are named by their codes. -/
def ideographs : List (Nat × Nat) :=
  [(0x3400, 0x4dbf), (0x4e00, 0x9fff), (0x20000, 0x2a6df), (0x2a700, 0x2b738), (0x2b740, 0x2b81d),
   (0x2b820, 0x2cea1), (0x2ceb0, 0x2ebe0), (0x30000, 0x3134a)]

def isIdeograph (name : List Char) : Bool :=
  match "CJK UNIFIED IDEOGRAPH-".toList.isPrefixOf name, name.drop 22 with
  | true, digits =>
    (digits.length == 4 || digits.length == 5) &&
      (numberOf? 16 digits).any fun n => ideographs.any fun (low, high) => low ≤ n && n ≤ high
  | false, _ => false

def initials : List String :=
  ["G", "GG", "N", "D", "DD", "R", "M", "B", "BB", "S", "SS", "", "J", "JJ", "C", "K", "T", "P", "H"]

def vowels : List String :=
  ["A", "AE", "YA", "YAE", "EO", "E", "YEO", "YE", "O", "WA", "WAE", "OE", "YO", "U", "WEO", "WE",
   "WI", "YU", "EU", "YI", "I"]

def finals : List String :=
  ["", "G", "GG", "GS", "N", "NJ", "NH", "D", "L", "LG", "LM", "LB", "LS", "LT", "LP", "LH", "M",
   "B", "BS", "S", "SS", "NG", "J", "C", "K", "T", "P", "H"]

/-- What is left behind the longest of some texts that a name begins with. -/
def behindLongest? (texts : List String) (name : List Char) : Option (List Char) :=
  let fitting := texts.filter fun t => t.toList.isPrefixOf name
  (fitting.map String.length).max?.map fun n => name.drop n

def isSyllable (name : List Char) : Bool :=
  match "HANGUL SYLLABLE ".toList.isPrefixOf name, name.drop 16 with
  | true, sounds =>
    (behindLongest? initials sounds).bind (behindLongest? vowels) |>.bind (behindLongest? finals)
      |>.any List.isEmpty
  | false, _ => false

end CharacterNames

/-- Whether a character has this name. The names in the table may be written in either case. -/
def isCharacterName (name : List Char) : Bool :=
  CharacterNames.isIdeograph name || CharacterNames.isSyllable name ||
    CharacterNames.holds (name.map Char.toUpper)

end MacroStubs.Text
