import MacroStubs.Text.Blank
import MacroStubs.Text.Digit
import MacroStubs.Text.Identifier
import MacroStubs.Text.LetterCase
import MacroStubs.Text.LetterClassTable

/-! # Classes of characters

Which characters are letters, digits and numerals, and which letters are in upper or lower case.
-/

namespace MacroStubs.Text

def isLetter (c : Char) : Bool :=
  if isIdentifierStart c then !within nameStartsNoLetters c.toNat
  else within lettersOutsideNames c.toNat

def isDigit (c : Char) : Bool := isDecimalDigit c || within digitsOutsideDecimals c.toNat

def isNumeral (c : Char) : Bool := isDigit c || within numeralsNoDigits c.toNat

def isLower (c : Char) : Bool :=
  if upperChars c = [c] then within lowerAlone c.toNat else !within raisedNoLower c.toNat

def isUpper (c : Char) : Bool :=
  if lowerChars c = [c] then within upperAlone c.toNat else !within loweredNoUpper c.toNat

/-- Whether a letter is one of a title, neither in upper nor in lower case as a whole. -/
def isTitle (c : Char) : Bool := within titleLetters c.toNat

def isCased (c : Char) : Bool := isLower c || isUpper c || isTitle c

/-- Whether the letter at the beginning of `cs`, past what is passed over, has a case. -/
def meetsCased (cs : List Char) : Bool :=
  ((cs.dropWhile fun c => within caseIgnorable c.toNat).head?.map isCased).getD false

/-- What a letter becomes in lower case between `before`, the nearest character first, and `after`. A
sigma at the end of a word has a form of its own. -/
def lowerBetween (before : List Char) (c : Char) (after : List Char) : List Char :=
  if c = 'Σ' && meetsCased before && !meetsCased after then ['ς'] else lowerChars c

/-- The texts that `f` makes of each letter between what stands before it and what comes after. -/
def recased (f : List Char → Char → List Char → List Char) (before : List Char) :
    List Char → List Char
  | [] => []
  | c :: rest => f before c rest ++ recased f (c :: before) rest

def lower : List Char → List Char := recased lowerBetween []

/-- The first letter as at the head of a word, the others in lower case. -/
def capitalized : List Char → List Char
  | [] => []
  | c :: rest => titleChars c ++ recased lowerBetween [c] rest

/-- Every letter in the other case. -/
def swapped : List Char → List Char :=
  recased (fun before c after =>
    if isUpper c then lowerBetween before c after
    else if isLower c then upperChars c
    else [c]) []

/-- Every word with its first letter as at the head of one, the others in lower case. -/
def titled : List Char → List Char :=
  recased (fun before c after =>
    if (before.head?.map isCased).getD false then lowerBetween before c after else titleChars c) []

/-- Whether letters of one case occur and none of the other one. -/
def onlyCase (p q : Char → Bool) (cs : List Char) : Bool :=
  cs.any p && !cs.any fun c => q c || isTitle c

/-- Whether words have their first letters in upper case and the others in lower case; `inWord` tells
whether a letter came just before. -/
def headsWords (inWord : Bool) : List Char → Bool
  | [] => true
  | c :: rest =>
    if isUpper c || isTitle c then !inWord && headsWords true rest
    else if isLower c then inWord && headsWords true rest
    else headsWords false rest

def isTitledText (cs : List Char) : Bool := cs.any isCased && headsWords false cs

end MacroStubs.Text
