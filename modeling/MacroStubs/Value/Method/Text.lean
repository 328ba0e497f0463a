import MacroStubs.Text.Encoding
import MacroStubs.Text.LetterClass
import MacroStubs.Text.Lines
import MacroStubs.Text.Search
import MacroStubs.Value.Method.Basic

/-! # Methods of texts and bytes

Texts and bytes have most of their methods in common. Bytes are read as the characters of their
numbers, of which only those of ASCII are letters, digits or blanks.
-/

namespace MacroStubs.Value.Method

/-- What sets one kind of texts apart from the others. -/
structure Script where
  owner : String
  make : List Char → Value
  /-- The characters of a value that counts as a text of this kind. -/
  read? : Value → Option (List Char)
  /-- Whether a search takes a character by its number. -/
  takesNumbers : Bool
  isBlank : Char → Bool
  endsLine : Char → Bool
  isLetter : Char → Bool
  isDigit : Char → Bool
  isLower : Char → Bool
  isUpper : Char → Bool
  isTitled : List Char → Bool
  upper : List Char → List Char
  lower : List Char → List Char
  capitalized : List Char → List Char
  titled : List Char → List Char
  swapped : List Char → List Char

namespace Script

def text : Script where
  owner := "str"
  make cs := str (String.ofList cs)
  read? v := v.text?.map String.toList
  takesNumbers := false
  isBlank := Text.isBlank
  endsLine := Text.isLineBoundary
  isLetter := Text.isLetter
  isDigit := Text.isDigit
  isLower := Text.isLower
  isUpper := Text.isUpper
  isTitled := Text.isTitledText
  upper := Text.upper
  lower := Text.lower
  capitalized := Text.capitalized
  titled := Text.titled
  swapped := Text.swapped

def charsOf (data : List UInt8) : List Char := data.map fun b => Char.ofNat b.toNat

def bytesOf (cs : List Char) : List UInt8 := cs.map fun c => UInt8.ofNat c.toNat

/-- Words with their first letters in upper case; `inWord` tells whether a letter came just before. -/
def titledBytes (inWord : Bool) : List Char → List Char
  | [] => []
  | c :: rest => (if inWord then c.toLower else c.toUpper) :: titledBytes c.isAlpha rest

/-- Whether words have their first letters in upper case and the others in lower case. -/
def headsByteWords (inWord : Bool) : List Char → Bool
  | [] => true
  | c :: rest =>
    (!c.isUpper || !inWord) && (!c.isLower || inWord) && headsByteWords c.isAlpha rest

def data (owner : String) (make : List UInt8 → Value) : Script where
  owner
  make cs := make (bytesOf cs)
  read? v := match v with
    | bytes data | bytearray data => some (charsOf data)
    | _ => none
  takesNumbers := true
  isBlank c := c = ' ' || (9 ≤ c.toNat && c.toNat ≤ 13)
  endsLine c := c = '\n' || c = '\r'
  isLetter := Char.isAlpha
  isDigit := Char.isDigit
  isLower := Char.isLower
  isUpper := Char.isUpper
  isTitled cs := cs.any Char.isAlpha && headsByteWords false cs
  upper cs := cs.map Char.toUpper
  lower cs := cs.map Char.toLower
  capitalized cs := (cs.take 1).map Char.toUpper ++ (cs.drop 1).map Char.toLower
  titled := titledBytes false
  swapped cs := cs.map fun c => if c.isUpper then c.toLower else c.toUpper

variable (k : Script) (cs : List Char)

/-- What a search looks for: a text of the same kind, or a byte by its number. -/
def needle (name : String) (v : Value) : Except Failure (List Char) :=
  match k.read? v, v.int? with
  | some needle, _ => pure needle
  | none, some n =>
    if !k.takesNumbers then refuse k.owner name
    else if 0 ≤ n ∧ n < 256 then pure [Char.ofNat n.toNat]
    else valueError "byte must be in range(0, 256)"
  | none, none => refuse k.owner name

/-- The places of a needle between the bounds that arguments give. -/
def found (name : String) (v : Value) (arguments : List Value) :
    Except Failure (List Char × List Nat) := do
  let (start, stop) ← bounds cs.length arguments
  let needle ← needle k name v
  let places :=
    if stop < start + needle.length then []
    else Text.places needle start ((cs.drop start).take (stop - start))
  pure (needle, places)

def isFlag (p : Char → Bool) : Value := bool (!cs.isEmpty && cs.all p)

/-- The borders that a test is made for: a text, or several in a tuple. -/
def borders (name : String) : Value → Except Failure (List (List Char))
  | tuple items => items.mapM fun v => match k.read? v with
    | some t => pure t
    | none => refuse k.owner name
  | v => match k.read? v with
    | some t => pure [t]
    | none => refuse k.owner name

/-- Whether the part of a text between bounds begins, or ends, with one of several texts. -/
def hasBorder (name : String) (test : List Char → List Char → Bool) (v : Value)
    (arguments : List Value) : Except Failure Value := do
  let ts ← borders k name v
  let (start, stop) ← bounds cs.length arguments
  pure (bool (ts.any fun t =>
    decide (start + t.length ≤ stop) && test t ((cs.drop start).take (stop - start))))

def separator (name : String) (v : Value) : Except Failure (List Char) :=
  match k.read? v with
  | some [] => valueError "empty separator"
  | some t => pure t
  | none => refuse k.owner name

/-- The texts of a value one after the other with another one between each two. -/
def joined (v : Value) : Except Failure Value := do
  match v.items? with
  | none => throw (.builtinRefused "can only join an iterable")
  | some items =>
    let texts ← items.mapM fun item => match k.read? item with
      | some t => pure t
      | none => refuse k.owner "join"
    pure (k.make (cs.intercalate texts))

/-- A text before a place, what stands at the place, and the text behind it. -/
def parted (t : List Char) (place : Option Nat) (last : Bool) : Value :=
  tuple (match place with
    | some p => [k.make (cs.take p), k.make t, k.make (cs.drop (p + t.length))]
    | none => if last then [k.make [], k.make [], k.make cs] else [k.make cs, k.make [], k.make []])

/-- The character that fills a text up to a width; a blank if none is given. -/
def fill (name : String) : List Value → Except Failure Char
  | [] => pure ' '
  | [v] => match k.read? v with
    | some [c] => pure c
    | _ => refuse k.owner name
  | _ => refuse k.owner name

def padding (name : String) (width : Value) (arguments : List Value) :
    Except Failure (Nat × List Char) := do
  let width := (← number width).toNat
  let c ← fill k name arguments
  pure (width, List.replicate (width - cs.length) c)

/-- A method that texts and bytes have. -/
def shared (name : String) (arguments : List Value) : Except Failure Value :=
  match name, arguments with
  | "upper", [] => pure (k.make (k.upper cs))
  | "lower", [] => pure (k.make (k.lower cs))
  | "capitalize", [] => pure (k.make (k.capitalized cs))
  | "title", [] => pure (k.make (k.titled cs))
  | "swapcase", [] => pure (k.make (k.swapped cs))
  | "isalpha", [] => pure (isFlag cs k.isLetter)
  | "isdigit", [] => pure (isFlag cs k.isDigit)
  | "isspace", [] => pure (isFlag cs k.isBlank)
  | "isascii", [] => pure (bool (cs.all fun c => c.toNat < 128))
  | "islower", [] => pure (bool (Text.onlyCase k.isLower k.isUpper cs))
  | "isupper", [] => pure (bool (Text.onlyCase k.isUpper k.isLower cs))
  | "istitle", [] => pure (bool (k.isTitled cs))
  | "strip", [v] => stripped name true true v
  | "lstrip", [v] => stripped name true false v
  | "rstrip", [v] => stripped name false true v
  | "split", [null, n] => do pure (pieces (Text.firstWords k.isBlank (limit (← number n)) cs))
  | "rsplit", [null, n] => do pure (pieces (Text.lastWords k.isBlank (limit (← number n)) cs))
  | "split", [v, n] => do
    let n := limit (← number n)
    pure (pieces (Text.piecesAt (← separator k name v) cs n))
  | "rsplit", [v, n] => do
    let n := limit (← number n)
    pure (pieces (Text.piecesAtLast (← separator k name v) cs n))
  | "splitlines", [v] => do pure (pieces (Text.linesAt k.endsLine ((← number v) != 0) cs))
  | "partition", [v] => do
    let t ← separator k name v
    pure (parted k cs t (Text.places t 0 cs).head? false)
  | "rpartition", [v] => do
    let t ← separator k name v
    pure (parted k cs t (Text.places t 0 cs).getLast? true)
  | "join", [v] => joined k cs v
  | "replace", [old, new, n] =>
    match k.read? old, k.read? new with
    | some old, some new => do pure (k.make (Text.replaced old new cs (limit (← number n))))
    | _, _ => refuse k.owner name
  | "removeprefix", [v] =>
    match k.read? v with
    | some t => pure (k.make (if t.isPrefixOf cs then cs.drop t.length else cs))
    | none => refuse k.owner name
  | "removesuffix", [v] =>
    match k.read? v with
    | some t => pure (k.make (if t.isSuffixOf cs then cs.take (cs.length - t.length) else cs))
    | none => refuse k.owner name
  | "startswith", v :: rest => hasBorder k cs name List.isPrefixOf v rest
  | "endswith", v :: rest => hasBorder k cs name List.isSuffixOf v rest
  | "find", v :: rest => do pure (placeOr (← found k cs name v rest).2.head?)
  | "rfind", v :: rest => do pure (placeOr (← found k cs name v rest).2.getLast?)
  | "index", v :: rest => do place (← found k cs name v rest).2.head?
  | "rindex", v :: rest => do place (← found k cs name v rest).2.getLast?
  | "count", v :: rest => do
    let (t, places) ← found k cs name v rest
    pure (int (Text.apart t.length (cs.length + 1) places).length)
  | "center", width :: rest => do
    let n := (← number width).toNat
    pure (k.make (Text.centred n (← fill k name rest) cs))
  | "ljust", width :: rest => do
    let (_, pad) ← padding k cs name width rest
    pure (k.make (cs ++ pad))
  | "rjust", width :: rest => do
    let (_, pad) ← padding k cs name width rest
    pure (k.make (pad ++ cs))
  | "zfill", [width] => do pure (k.make (Text.zeroFilled (← number width).toNat cs))
  | "expandtabs", [size] => do pure (k.make (Text.withoutTabs (← number size).toNat 0 cs))
  | name, _ => refuse k.owner name
where
  pieces (texts : List (List Char)) : Value := list (texts.map k.make)
  stripped (name : String) (left right : Bool) : Value → Except Failure Value
    | null => pure (k.make (Text.stripped left right k.isBlank cs))
    | v => match k.read? v with
      | some t => pure (k.make (Text.stripped left right t.contains cs))
      | none => refuse k.owner name
  placeOr (place : Option Nat) : Value := int ((place.map Int.ofNat).getD (-1))
  place : Option Nat → Except Failure Value
    | some p => pure (int p)
    | none =>
      valueError (if k.takesNumbers then "subsection not found" else "substring not found")

end Script

/-- What arguments name: an encoding, and how what it does not have is handled. -/
def encodingOf (owner : String) : List Value → Except Failure (Text.Encoding × String)
  | [str name, str handling] =>
    match Text.Encoding.ofName? name with
    | some e => pure (e, handling)
    | none => throw (.thrown { kind := "LookupError", message := s!"unknown encoding: {name}" })
  | _ => refuse owner "encode"

/-- The failure of an encoding. -/
def encodingFault (kind verb : String) (thing : Nat → String) (things : String)
    (e : Text.Encoding) (handling : String) (fault : Text.Encoding.Fault) : Failure :=
  if handling != "strict" then
    .thrown { kind := "LookupError", message := s!"unknown error handler name '{handling}'" }
  else
    let place :=
      if fault.first = fault.last then s!"{thing fault.first} in position {fault.first}"
      else s!"{things} in position {fault.first}-{fault.last}"
    .thrown { kind, message := s!"'{e.name}' codec can't {verb} {place}: {fault.reason}" }

/-- What a table makes of a character. -/
def translated (classing : Classing) (table : Value) (c : Char) : Except Failure (List Char) :=
  match item classing table (int c.toNat) with
  | .error (.keyMissing _) | .error (.indexOutOfRange _) => pure [c]
  | .error f => throw f
  | .ok null => pure []
  | .ok (str s) => pure s.toList
  | .ok v =>
    match v.int? with
    | some n =>
      if 0 ≤ n ∧ n < 0x110000 then pure [Char.ofNat n.toNat]
      else valueError "character mapping must be in range(0x110000)"
    | none =>
      throw (.builtinRefused "character mapping must return integer, None or str")

/-- The table that texts, or a dictionary of characters, are made into. -/
def characterTable : List Value → Except Failure Value
  | [dict entries] => do
    let entries ← entries.mapM fun (key, v) => match key with
      | str s => match s.toList with
        | [c] => pure (int c.toNat, v)
        | _ => valueError "string keys in translate table must be of length 1"
      | key => match key.int? with
        | some _ => pure (key, v)
        | none =>
          throw (.builtinRefused "keys in translate table must be strings or integers")
    pure (dict (dictOf entries))
  | [_] =>
    throw (.builtinRefused "if you give only one argument to maketrans it must be a dict")
  | str a :: str b :: rest =>
    if rest.any fun v => v.text?.isNone then refuse "str" "maketrans"
    else if a.length != b.length then
      valueError "the first two maketrans arguments must have equal length"
    else
      let code (c : Char) : Value := int c.toNat
      let pairs := (a.toList.zip b.toList).map fun (x, y) => (code x, code y)
      match rest with
      | [] => pure (dict (dictOf pairs))
      | [str dropped] => pure (dict (dictOf (pairs ++ dropped.toList.map fun c => (code c, null))))
      | _ => refuse "str" "maketrans"
  | _ => refuse "str" "maketrans"

/-- A method of a text. -/
def ofText (setting : Setting) (s : String) (name : String) (arguments : List Value) :
    Except Failure Value :=
  let cs := s.toList
  match name, arguments with
  | "casefold", [] => pure (str (String.ofList (Text.folded cs)))
  | "isalnum", [] => pure (Script.isFlag cs fun c => Text.isLetter c || Text.isNumeral c)
  | "isdecimal", [] => pure (Script.isFlag cs Text.isDecimalDigit)
  | "isnumeric", [] => pure (Script.isFlag cs Text.isNumeral)
  | "isidentifier", [] => pure (bool (Text.isIdentifier s))
  | "isprintable", [] => pure (bool (cs.all Text.isPrintable))
  | "encode", arguments => do
    let (e, handling) ← encodingOf "str" arguments
    let named (i : Nat) : String :=
      match cs.drop i with
      | c :: _ =>
        "character '" ++
          String.ofList ((Text.Encoding.substitute? "backslashreplace" c).getD []) ++ "'"
      | [] => "character"
    match e.encode handling cs with
    | .ok data => pure (bytes data)
    | .error fault =>
      throw (encodingFault "UnicodeEncodeError" "encode" named "characters" e handling fault)
  | "translate", [table] => do
    let pieces ← cs.mapM (translated setting.classing table)
    pure (str (String.ofList pieces.flatten))
  | "maketrans", arguments => characterTable arguments
  | name, arguments => Script.shared .text cs name arguments

/-- The digits of bytes with a separator between groups, counted from the right or, if the size is
negative, from the left. -/
def grouped (separator : List Char) (size : Int) (data : List UInt8) : List Char :=
  let digits := data.map fun b => Text.hexDigits 2 b.toNat
  let n := digits.length
  let k := size.natAbs
  (digits.mapIdx fun i ds =>
    let atBorder :=
      if k = 0 then false
      else if 0 < size then decide (0 < i) && (n - i) % k == 0
      else decide (0 < i) && i % k == 0
    if atBorder then separator ++ ds else ds).flatten

/-- The bytes that pairs of digits denote; blanks may stand between pairs. -/
def bytesOfDigits (i : Nat) : List Char → Except Failure (List UInt8)
  | [] => pure []
  | c :: rest =>
    if c = ' ' || (9 ≤ c.toNat && c.toNat ≤ 13) then bytesOfDigits (i + 1) rest
    else
      let fault (i : Nat) : Except Failure (List UInt8) :=
        valueError s!"non-hexadecimal number found in fromhex() arg at position {i}"
      match digit? c, rest with
      | some a, d :: rest =>
        match digit? d with
        | some b => do pure (UInt8.ofNat (16 * a + b) :: (← bytesOfDigits (i + 2) rest))
        | none => fault (i + 1)
      | some _, [] => fault (i + 1)
      | none, _ => fault i
where
  digit? (c : Char) : Option Nat :=
    if c.isDigit then some (c.toNat - 48)
    else if 'a' ≤ c.toLower && c.toLower ≤ 'f' then some (c.toLower.toNat - 87)
    else none

/-- A method of bytes. -/
def ofBytes (owner : String) (make : List UInt8 → Value) (data : List UInt8) (name : String)
    (arguments : List Value) : Except Failure Value :=
  match name, arguments with
  | "isalnum", [] => pure (Script.isFlag (Script.charsOf data) Char.isAlphanum)
  | "hex", [] => pure (str (String.ofList (grouped [] 0 data)))
  | "hex", separator :: rest => do
    let size ← match rest with
      | [] => pure 1
      | [n] => number n
      | _ => refuse owner name
    match (separator.text?.map String.toList).or ((Script.data owner make).read? separator) with
    | some [c] => pure (str (String.ofList (grouped [c] size data)))
    | some _ => valueError "sep must be length 1."
    | none =>
      match separator.length? with
      | none | some 1 => refuse owner name
      | some _ => valueError "sep must be length 1."
  | "fromhex", [str s] => make <$> bytesOfDigits 0 s.toList
  | "decode", [str _, str _] => do
    if data.isEmpty then pure (str "") else decoded arguments
  | "translate", [table, dropped] =>
    match table, (Script.data owner make).read? table, (Script.data owner make).read? dropped with
    | _, _, none => refuse owner name
    | null, _, some dropped => pure (make (data.filter (!(Script.bytesOf dropped).contains ·)))
    | _, some table, some dropped =>
      if table.length != 256 then valueError "translation table must be 256 characters long"
      else
        let left := data.filter (!(Script.bytesOf dropped).contains ·)
        pure (make (left.map fun b => (Script.bytesOf table)[b.toNat]?.getD b))
    | _, none, _ => refuse owner name
  | "maketrans", [old, new] =>
    match (Script.data owner make).read? old, (Script.data owner make).read? new with
    | some old, some new =>
      if old.length != new.length then valueError "maketrans arguments must have same length"
      else
        let pairs := (Script.bytesOf old).zip (Script.bytesOf new)
        pure (bytes ((List.range 256).map fun n =>
          ((pairs.reverse.lookup (UInt8.ofNat n)).getD (UInt8.ofNat n))))
    | _, _ => refuse owner name
  | name, arguments =>
    if owner = "bytearray" then ofArray name arguments
    else Script.shared (.data owner make) (Script.charsOf data) name arguments
where
  decoded (arguments : List Value) : Except Failure Value := do
    let (e, handling) ← encodingOf owner arguments
    let named (i : Nat) : String :=
      match data.drop i with
      | b :: _ => "byte 0x" ++ String.ofList (Text.hexDigits 2 b.toNat)
      | [] => "byte"
    match e.decode handling data with
    | .ok cs => pure (str (String.ofList cs))
    | .error fault =>
      throw (encodingFault "UnicodeDecodeError" "decode" named "bytes" e handling fault)
  ofArray (name : String) (arguments : List Value) : Except Failure Value :=
    let byte (v : Value) : Except Failure UInt8 := do
      let n ← number v
      if 0 ≤ n ∧ n < 256 then pure (UInt8.ofNat n.toNat)
      else valueError "byte must be in range(0, 256)"
    match name, arguments with
    | "append", [v] => do
      let _ ← byte v
      pure null
    | "insert", [i, v] => do
      let _ ← number i
      let _ ← byte v
      pure null
    | "extend", [v] =>
      match v.items? with
      | some items => do
        let _ ← items.mapM byte
        pure null
      | none => refuse owner name
    | "remove", [v] => do
      if data.contains (← byte v) then pure null
      else valueError "value not found in bytearray"
    | "pop", [v] => do
      match (place? data.length (← number v)).bind (data[·]?) with
      | some b => pure (int b.toNat)
      | none => indexError (if data.isEmpty then "pop from empty bytearray" else "pop index out of range")
    | "clear", [] | "reverse", [] => pure null
    | "copy", [] => pure (make data)
    | name, arguments => Script.shared (.data owner make) (Script.charsOf data) name arguments

end MacroStubs.Value.Method
