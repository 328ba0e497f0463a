import MacroStubs.Text.Quoted

/-! # Encodings

Texts as bytes and bytes as texts. What a text or bytes hold that an encoding does not have is left
out, replaced, or a fault, as the caller says.
-/

namespace MacroStubs.Text

inductive Encoding where
  | utf8
  | ascii
  | latin1
  deriving DecidableEq, Repr, Inhabited

namespace Encoding

def name : Encoding → String
  | utf8 => "utf-8"
  | ascii => "ascii"
  | latin1 => "latin-1"

/-- The encoding with a name; case, blanks and lines between its parts do not count. -/
def ofName? (s : String) : Option Encoding :=
  let plain := s.toList.filterMap fun c =>
    if c = '-' || c = '_' || c = ' ' then none else some c.toLower
  match String.ofList plain with
  | "utf8" | "u8" | "utf" | "cp65001" => some utf8
  | "ascii" | "usascii" | "646" => some ascii
  | "latin1" | "latin" | "iso88591" | "l1" | "88591" | "cp819" => some latin1
  | _ => none

/-- How many characters an encoding has. -/
def size : Encoding → Nat
  | utf8 => 0x110000
  | ascii => 128
  | latin1 => 256

/-- What stops an encoding: the places of the first and the last of the characters or bytes in a row
that it does not have, and why. -/
structure Fault where
  first : Nat
  last : Nat
  reason : String
  deriving DecidableEq, Repr

/-- What a character becomes that an encoding does not have, if the caller knows a way. -/
def substitute? (handling : String) (c : Char) : Option (List Char) :=
  match handling with
  | "ignore" => some []
  | "replace" => some ['?']
  | "backslashreplace" =>
    let n := c.toNat
    some (if n < 0x100 then '\\' :: 'x' :: hexDigits 2 n
      else if n < 0x10000 then '\\' :: 'u' :: hexDigits 4 n
      else '\\' :: 'U' :: hexDigits 8 n)
  | "xmlcharrefreplace" => some ("&#".toList ++ (toString c.toNat).toList ++ [';'])
  | _ => none

/-- The characters of a text, those that the encoding does not have replaced; `i` is the place of the
first one. -/
def covered (e : Encoding) (handling : String) (i : Nat) : List Char → Except Fault (List Char)
  | [] => pure []
  | c :: rest => do
    if c.toNat < e.size then pure (c :: (← covered e handling (i + 1) rest))
    else
      match substitute? handling c with
      | some cs => pure (cs ++ (← covered e handling (i + 1) rest))
      | none =>
        let more := (rest.takeWhile fun d => e.size ≤ d.toNat).length
        throw { first := i, last := i + more, reason := s!"ordinal not in range({e.size})" }

/-- The bytes of a text. -/
def encode (e : Encoding) (handling : String) (cs : List Char) : Except Fault (List UInt8) := do
  let cs ← covered e handling 0 cs
  match e with
  | utf8 => pure (String.ofList cs).toUTF8.toList
  | _ => pure (cs.map fun c => UInt8.ofNat c.toNat)

/-- The bounds of the second byte of a character, and how many bytes follow the first. -/
def following? (b : UInt8) : Option (Nat × Nat × Nat) :=
  let n := b.toNat
  if n < 0x80 then some (0, 0, 0)
  else if 0xC2 ≤ n ∧ n ≤ 0xDF then some (0x80, 0xBF, 1)
  else if n = 0xE0 then some (0xA0, 0xBF, 2)
  else if n = 0xED then some (0x80, 0x9F, 2)
  else if 0xE1 ≤ n ∧ n ≤ 0xEF then some (0x80, 0xBF, 2)
  else if n = 0xF0 then some (0x90, 0xBF, 3)
  else if 0xF1 ≤ n ∧ n ≤ 0xF3 then some (0x80, 0xBF, 3)
  else if n = 0xF4 then some (0x80, 0x8F, 3)
  else none

/-- How many of the bytes behind the first one of a character are as they have to be. -/
def wellFollowed (low high : Nat) : Nat → List UInt8 → Nat
  | 0, _ => 0
  | _, [] => 0
  | n + 1, b :: rest =>
    if low ≤ b.toNat ∧ b.toNat ≤ high then wellFollowed 0x80 0xBF n rest + 1 else 0

/-- The character that bytes are. -/
def characterOf (bs : List UInt8) : List Char :=
  match String.fromUTF8? ⟨bs.toArray⟩ with
  | some s => s.toList
  | none => []

/-- The text that bytes are; `i` is the place of the first one. -/
def decodeUtf8 (handling : String) : Nat → Nat → List UInt8 → Except Fault (List Char)
  | 0, _, _ => pure []
  | _, _, [] => pure []
  | fuel + 1, i, b :: rest => do
    let faulty (n : Nat) (reason : String) : Except Fault (List Char) := do
      let later := decodeUtf8 handling fuel (i + n) (rest.drop (n - 1))
      match handling with
      | "ignore" => later
      | "replace" => do pure ('\uFFFD' :: (← later))
      | "backslashreplace" => do
        pure (((b :: rest).take n).flatMap (fun x => '\\' :: 'x' :: hexDigits 2 x.toNat) ++ (← later))
      | _ => throw { first := i, last := i + n - 1, reason }
    match following? b with
    | none => faulty 1 "invalid start byte"
    | some (low, high, n) =>
      let k := wellFollowed low high n rest
      if k = n then
        pure (characterOf (b :: rest.take n) ++
          (← decodeUtf8 handling fuel (i + n + 1) (rest.drop n)))
      else if k = rest.length then faulty (k + 1) "unexpected end of data"
      else faulty (k + 1) "invalid continuation byte"

/-- The text that bytes are. -/
def decode (e : Encoding) (handling : String) (bs : List UInt8) : Except Fault (List Char) :=
  match e with
  | utf8 => decodeUtf8 handling (bs.length + 1) 0 bs
  | latin1 => pure (bs.map fun b => Char.ofNat b.toNat)
  | ascii => go 0 bs
where
  go (i : Nat) : List UInt8 → Except Fault (List Char)
    | [] => pure []
    | b :: rest => do
      let later := go (i + 1) rest
      if b < 128 then pure (Char.ofNat b.toNat :: (← later))
      else
        match handling with
        | "ignore" => later
        | "replace" => do pure ('\uFFFD' :: (← later))
        | "backslashreplace" => do pure ('\\' :: 'x' :: hexDigits 2 b.toNat ++ (← later))
        | _ => throw { first := i, last := i, reason := "ordinal not in range(128)" }

end Encoding
end MacroStubs.Text
