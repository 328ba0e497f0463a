import MacroStubs.Number.Reading
import MacroStubs.Literal.Numeral
import MacroStubs.Value.Method
import MacroStubs.World.Text

/-! # Built-in functions and conversions

What the built-in functions give, and what making an object of a class of plain data gives.
-/

namespace MacroStubs

namespace BuiltinCall

variable (w : World) (r : Reach)

def refuse {α : Type} (text : String) : Run α := throw (.builtinRefused text)

/-- Refuses a number of arguments that is not the one a function takes. -/
def refuseCount {α : Type} (name amount : String) (isOne : Bool) (given : Nat) : Run α :=
  let noun := if isOne then "argument" else "arguments"
  refuse s!"{name} expected {amount} {noun}, got {given}"

/-- Refuses the first keyword argument that is none of those that a function takes. -/
def checkKeywords (name : String) (known : List String) (keywords : Table String Value) : Run Unit :=
  match keywords.find? fun e => !known.contains e.1 with
  | some e => refuse s!"'{e.1}' is an invalid keyword argument for {name}()"
  | none => pure ()

/-- Calls a special method that the class of a value defines in the world. -/
def special? (v : Value) (name : String) (arguments : List Value) : Run (Option Value) := do
  let σ ← get
  if Descriptor.definesSpecial σ v name then
    match ← Run.ofExcept (Descriptor.special? r σ v name) with
    | some f => some <$> r.call f arguments []
    | none => pure none
  else pure none

/-- What a value gives one by one. -/
def items (v : Value) : Run (List Value) := do
  let σ ← get
  match (σ.payload v).items? with
  | some xs => pure xs
  | none => refuse s!"'{σ.typeLabel v}' object is not iterable"

/-- Whether a value counts as true, which its class may decide. -/
def truth (v : Value) : Run Bool := do
  match ← special? r v "__bool__" [] with
  | some answer => pure answer.isTrue
  | none =>
    match ← special? r v "__len__" [] with
    | some answer => pure answer.isTrue
    | none => pure ((← get).payload v).isTrue

/-- A value as a text. -/
def asText (v : Value) : Run String := do
  let σ ← get
  match v with
  | .str s => pure s
  | v =>
    match ← special? r v "__str__" [] with
    | some (.str s) => pure s
    | some other => refuse s!"__str__ returned non-string (type {σ.typeLabel other})"
    | none => Run.ofExcept (printedText w r σ v)

def length (v : Value) : Run Value := do
  let σ ← get
  match ← special? r v "__len__" [] with
  | some (.int n) =>
    if n < 0 then throw (.thrown { kind := "ValueError", message := "__len__() should return >= 0" })
    else pure (.int n)
  | some other =>
    match other.int? with
    | some n => pure (.int n)
    | none => refuse s!"'{σ.typeLabel other}' object cannot be interpreted as an integer"
  | none =>
    match (σ.payload v).length? with
    | some n => pure (.int n)
    | none => refuse s!"object of type '{σ.typeLabel v}' has no len()"

/-- Values with the keys by which they are compared. -/
def keyed (key : Option Value) (xs : List Value) : Run (List (Value × Value)) :=
  xs.mapM fun x => do
    match key with
    | none | some .null => pure (x, x)
    | some f => do pure (← r.call f [x] [], x)

def unordered (σ : State) (sign : String) (a b : Value) : Failure :=
  .builtinRefused
    s!"'{sign}' not supported between instances of '{σ.typeLabel a}' and '{σ.typeLabel b}'"

def sorted (v : Value) (keywords : Table String Value) : Run Value := do
  let entries ← keyed r (keywords.get? "key") (← items v)
  let σ ← get
  let reversed := ((keywords.get? "reverse").getD (.bool false)).isTrue
  let entries := if reversed then entries.reverse else entries
  let sorted ← Run.ofExcept (Value.sortedByKey (unordered σ "<") entries)
  pure (.list ((if reversed then sorted.reverse else sorted).map (·.2)))

/-- The first of the entries with the greatest key. -/
def greatest (σ : State) : Value × Value → List (Value × Value) → Except Failure Value
  | best, [] => pure best.2
  | best, e :: rest =>
    match Value.less? best.1 e.1 with
    | none => throw (unordered σ ">" e.1 best.1)
    | some true => greatest σ e rest
    | some false => greatest σ best rest

def max (arguments : List Value) (keywords : Table String Value) : Run Value := do
  let xs ← match arguments with
    | [] => refuse "max expected at least 1 argument, got 0"
    | [v] => items v
    | vs => pure vs
  match ← keyed r (keywords.get? "key") xs with
  | [] =>
    match keywords.get? "default" with
    | some v => pure v
    | none => throw (.thrown { kind := "ValueError", message := "max() arg is an empty sequence" })
  | e :: rest => Run.ofExcept (greatest (← get) e rest)

/-- The classes that a class or a tuple of them names; none if something else does. -/
def classes? : Value → Option (List ClassId)
  | .cls c => some [c]
  | .tuple items => go items
  | _ => none
where
  go : List Value → Option (List ClassId)
    | [] => some []
    | v :: rest => do
      let first ← classes? v
      let later ← go rest
      pure (first ++ later)

def isInstance (v classes : Value) : Run Value := do
  let σ ← get
  match classes? classes with
  | some cs => pure (.bool (cs.any (σ.isInstance v)))
  | none => refuse "isinstance() arg 2 must be a type, a tuple of types, or a union"

/-- Prints values to the output of the host. -/
def print (arguments : List Value) (keywords : Table String Value) : Run Value := do
  let texts ← arguments.mapM (asText w r)
  let option (name : String) (text : String) : String := match keywords.get? name with
    | some (.str s) => s
    | _ => text
  let line := (option "sep" " ").intercalate texts ++ option "end" "\n"
  Run.onHost fun h => { h with stdout := h.stdout ++ line }
  pure .null

/-- What a call of a built-in function gives. -/
def function (b : Builtin) (arguments : List Value) (keywords : Table String Value) : Run Value :=
  match b, arguments, keywords with
  | .len, [v], [] => length r v
  | .len, arguments, [] =>
    refuse s!"len() takes exactly one argument ({arguments.length} given)"
  | .isinstance, [v, classes], [] => isInstance v classes
  | .isinstance, arguments, [] => refuseCount b.name "2" false arguments.length
  | .len, _, _ | .isinstance, _, _ => refuse s!"{b.name}() takes no keyword arguments"
  | .print, arguments, keywords => do
    checkKeywords "print" ["sep", "end", "file", "flush"] keywords
    print w r arguments keywords
  | .sorted, [v], keywords => do
    let _ ← items v
    checkKeywords "sort" ["key", "reverse"] keywords
    sorted r v keywords
  | .sorted, arguments, _ => refuseCount b.name "1" true arguments.length
  | .max, [], _ => refuse "max expected at least 1 argument, got 0"
  | .max, arguments, keywords => do
    checkKeywords "max" ["key", "default"] keywords
    if 1 < arguments.length && keywords.has "default" then
      refuse "Cannot specify a default for max() with multiple positional arguments"
    else max r arguments keywords

/-- The whole number nearest to zero beside a double. -/
def truncated : Binary64 → Except Failure Int
  | .nan => throw (.thrown { kind := "ValueError", message := "cannot convert float NaN to integer" })
  | .infinity _ =>
    throw (.thrown { kind := "OverflowError", message := "cannot convert float infinity to integer" })
  | .finite negative m e =>
    let n : Int := match e with
      | .ofNat j => m * Binary64.powTwo j
      | .negSucc j => m / Binary64.powTwo (j + 1)
    pure (if negative then -n else n)

/-- The number that digits in a base denote; low lines stand between digits alone. -/
def digitsIn? (base : Nat) (value : Nat) (afterDigit : Bool) : List Char → Option Nat
  | [] => if afterDigit then some value else none
  | '_' :: rest => if afterDigit then digitsIn? base value false rest else none
  | c :: rest =>
    let d := if c.isDigit then c.toNat - 48 else if c.isAlpha then c.toLower.toNat - 87 else base
    if d < base then digitsIn? base (value * base + d) true rest else none

/-- The whole number that a text denotes in a base; base 0 is told by the text. -/
def intIn? (base : Nat) (s : String) : Option Int := do
  let (negative, cs) := match Number.numeral s with
    | '-' :: rest => (true, rest)
    | '+' :: rest => (false, rest)
    | rest => (false, rest)
  let marked := match cs with
    | '0' :: x :: rest => (markedBase x.toLower).map (·, rest)
    | _ => none
  let (base, cs) := match marked with
    | some (b, rest) =>
      if base = b || base = 0 then (b, if rest.head? = some '_' then rest.drop 1 else rest)
      else (base, cs)
    | none => (if base = 0 then 10 else base, cs)
  let n ← digitsIn? base 0 false cs
  pure (if negative then -(n : Int) else n)
where
  markedBase (x : Char) : Option Nat :=
    if x = 'x' then some 16 else if x = 'o' then some 8 else if x = 'b' then some 2 else none

/-- The whole number that a value is converted to. -/
def asInt (v : Value) : Run Value := do
  let σ ← get
  match v.int?, v with
  | some n, _ => pure (.int n)
  | none, .float x => .int <$> Run.ofExcept (truncated x)
  | none, .str s =>
    match Number.signedDigits? s with
    | some (negative, ds) =>
      if Value.maxDigits < ds.length then
        throw (.thrown
          { kind := "ValueError"
            message := s!"Exceeds the limit ({Value.maxDigits} digits) for integer string " ++
              s!"conversion: value has {ds.length} digits; use sys.set_int_max_str_digits() " ++
              "to increase the limit" })
      else
        let n : Int := Number.natOfDigits ds
        pure (.int (if negative then -n else n))
    | none => do throw (.badWholeNumber (← Run.ofExcept (printedText w r σ v)))
  | none, v => do
    match ← special? r v "__int__" [] with
    | some n => pure n
    | none =>
      match ← special? r v "__index__" [] with
      | some n => pure n
      | none =>
        match σ.payload v with
        | .int n => pure (.int n)
        | _ =>
          refuse ("int() argument must be a string, a bytes-like object or a real number, " ++
            s!"not '{σ.typeLabel v}'")

/-- The double that a value is converted to. -/
def asFloat (v : Value) : Run Value := do
  match v.int?, v with
  | some n, _ => pure (.float (Binary64.ofInt n))
  | none, .float x => pure (.float x)
  | none, .str s =>
    match Number.floatOf? s with
    | some x => pure (.float x)
    | none => do
      let text ← Run.ofExcept (printedText w r (← get) v)
      throw (.thrown
        { kind := "ValueError", message := "could not convert string to float: " ++ text })
  | none, v =>
    refuse ("float() argument must be a string or a real number, not " ++
      s!"'{(← get).typeLabel v}'")

/-- What making an object of a class of plain data gives; none for a class of another kind. -/
def convert? (name : String) (arguments : List Value) (keywords : Table String Value) :
    Run (Option Value) := do
  let σ ← get
  let keys (v : Value) : Run (List Value) := Run.ofExcept ((σ.payload v).keys σ.classing)
  match name, arguments, keywords with
  | "int", [], [] => pure (some (.int 0))
  | "int", [v], [] => some <$> asInt w r v
  | "int", [v, base], [] | "int", [v], [("base", base)] =>
    match base.int?, v with
    | none, _ => refuse s!"'{σ.typeLabel base}' object cannot be interpreted as an integer"
    | some base, .str s =>
      if base != 0 && (base < 2 || 36 < base) then
        throw (.thrown
          { kind := "ValueError", message := "int() base must be >= 2 and <= 36, or 0" })
      else
        match intIn? base.toNat s with
        | some n => pure (some (.int n))
        | none =>
          throw (.thrown
            { kind := "ValueError"
              message := s!"invalid literal for int() with base {base}: {Text.quote s}" })
    | some _, _ => refuse "int() can't convert non-string with explicit base"
  | "int", [], [("base", _)] => refuse "int() missing string argument"
  | "int", arguments, keywords => do
    checkKeywords name ["base"] keywords
    refuse s!"int() takes at most 2 arguments ({arguments.length + keywords.length} given)"
  | "float", [], [] => pure (some (.float (.zero false)))
  | "float", [v], [] => some <$> asFloat w r v
  | "bool", [], [] => pure (some (.bool false))
  | "bool", [v], [] => (some ∘ .bool) <$> truth r v
  | "str", [], [] => pure (some (.str ""))
  | "str", [v], [] => (some ∘ .str) <$> asText w r v
  | "list", [], [] => pure (some (.list []))
  | "list", [v], [] => (some ∘ .list) <$> items v
  | "tuple", [], [] => pure (some (.tuple []))
  | "tuple", [v], [] => (some ∘ .tuple) <$> items v
  | "set", [], [] => pure (some (.set []))
  | "set", [v], [] => do pure (some (.set (Value.setOf (← keys v))))
  | "frozenset", [], [] => pure (some (.frozenset []))
  | "frozenset", [v], [] => do pure (some (.frozenset (Value.setOf (← keys v))))
  | "dict", [], keywords => pure (some (.dict (Descriptor.entriesOf keywords)))
  | "dict", [v], keywords => do
    let entries ← Run.ofExcept ((σ.payload v).entriesFrom σ.classing)
    pure (some (.dict (Value.dictOf (entries ++ Descriptor.entriesOf keywords))))
  | "dict", arguments, _ => refuseCount name "at most 1" true arguments.length
  | "list", arguments, [] | "tuple", arguments, [] | "set", arguments, []
  | "frozenset", arguments, [] => refuseCount name "at most 1" true arguments.length
  | "list", _, _ | "tuple", _, _ | "set", _, _ | "frozenset", _, _ =>
    refuse s!"{name}() takes no keyword arguments"
  | "bytes", [], [] => pure (some (.bytes []))
  | "bytearray", [], [] => pure (some (.bytearray []))
  | "range", [.int stop], [] => pure (some (.range 0 stop 1))
  | "range", [.int start, .int stop], [] => pure (some (.range start stop 1))
  | "range", [.int start, .int stop, .int step], [] => pure (some (.range start stop step))
  | "type", [v], [] => do pure (some (.cls (σ.classOf v)))
  | "staticmethod", [v], [] => pure (some (.staticMethod none v))
  | "classmethod", [v], [] => pure (some (.classMethod none v))
  | "property", [], [] => pure (some (.property none .null))
  | "property", [v], [] => pure (some (.property none v))
  | "partial", f :: arguments, keywords => do
    if σ.isCallable f then pure (some (.partialCall none f arguments keywords))
    else refuse "the first argument must be callable"
  | _, _, _ => pure none

end BuiltinCall
end MacroStubs
