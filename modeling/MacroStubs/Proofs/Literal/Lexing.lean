import MacroStubs.Proofs.Literal.Quoted

/-! # Texts as tokens

The tokens that a text is cut into, whatever stands behind it as long as the text ends there.
-/

namespace MacroStubs.Literal
open Number Token

variable {text text' cs rest : List Char} {ts ts' : List Token} {t : Token} {c : Char}
  {P Q : List Char → Prop}

/-- Whether a text in front of others of a kind is cut into these tokens. -/
def Lexes (P : List Char → Prop) (text : List Char) (ts : List Token) : Prop :=
  ∀ n opened read rest, P rest → tokensFrom? (ts.length + n) opened read (text ++ rest) =
    (ts.foldlM Token.brackets? opened).bind fun o => tokensFrom? n o (ts.reverse ++ read) rest

theorem Lexes.nil : Lexes P [] [] := by
  intro n opened read rest hrest
  simp

theorem Lexes.weaken (h : Lexes P text ts) (hP : ∀ rest, Q rest → P rest) : Lexes Q text ts :=
  fun n opened read rest hrest => h n opened read rest (hP rest hrest)

theorem Lexes.append (h : Lexes P text ts) (h' : Lexes Q text' ts')
    (hP : ∀ rest, Q rest → P (text' ++ rest)) : Lexes Q (text ++ text') (ts ++ ts') := by
  intro n opened read rest hrest
  rw [List.append_assoc, List.length_append, Nat.add_assoc, h _ _ _ _ (hP rest hrest), List.foldlM_append,
    Option.bind_eq_bind, Option.bind_assoc]
  congr 1
  funext o
  rw [h' _ _ _ _ hrest, List.reverse_append, List.append_assoc]

/-- The characters that may stand between tokens. -/
def spaces : List Char := [' ', '\t', '\x0c', '#', '\\', '\n']

theorem skip_eq (inside : Bool) (hc : c ∉ spaces) : skip inside (c :: cs) = some (c :: cs) := by
  simp only [spaces, List.mem_cons, List.not_mem_nil, or_false, not_or] at hc
  simp [skip, skipFrom, hc]

/-- A blank before a text is left out. -/
theorem tokensFrom?_blank (n : Nat) (opened : List String) (read : List Token) (cs : List Char) :
    tokensFrom? n opened read (' ' :: cs) = tokensFrom? n opened read cs := by
  have hskip (inside : Bool) : skip inside (' ' :: cs) = skip inside cs := by
    simp [skip, skipFrom]
  cases n with
  | zero => rfl
  | succ n => rw [tokensFrom?, hskip, tokensFrom?]

theorem Lexes.blank (h : Lexes P text ts) : Lexes P (' ' :: text) ts := by
  intro n opened read rest hrest
  rw [List.cons_append, tokensFrom?_blank, h n opened read rest hrest]

/-- The step that takes one token. -/
theorem tokensFrom?_token {n : Nat} {opened : List String} {read : List Token} (hc : c ∉ spaces)
    (ht : Token.read? (c :: cs) = some (t, rest)) : tokensFrom? (n + 1) opened read (c :: cs) =
      (t.brackets? opened).bind fun o => tokensFrom? n o (t :: read) rest := by
  have hline : c ≠ '\n' := fun h => hc (h ▸ by decide)
  rw [tokensFrom?, skip_eq _ hc]
  simp [hline, ht]

theorem lexes_token (hc : c ∉ spaces)
    (ht : ∀ rest, P rest → Token.read? (c :: cs ++ rest) = some (t, rest)) : Lexes P (c :: cs) [t] := by
  intro n opened read rest hrest
  have htoken : Token.read? (c :: (cs ++ rest)) = some (t, rest) := ht rest hrest
  rw [List.length_singleton, Nat.add_comm, List.cons_append, tokensFrom?_token hc htoken]
  simp

/-- The marks of literals: symbols of one character. -/
def marks : List Char := ['(', ')', '[', ']', '\x7b', '\x7d', ',', ':', '+', '-']

/-- A mark is a symbol, if no longer one begins with it. -/
theorem read?_mark (hc : c ∈ marks)
    (hrest : c ∈ [':', '+', '-'] → ∀ d ∈ rest.head?, '=' ≠ d ∧ '>' ≠ d) :
    Token.read? (c :: rest) = some (symbol (String.singleton c), rest) := by
  have hlength : ∀ c ∈ marks, (String.singleton c).length = 1 := List.all_iff_forall_prop.mp (by decide)
  have hfind : symbols.find? (fun s => s.toList.isPrefixOf (c :: rest)) = some (String.singleton c) := by
    simp only [marks, List.mem_cons, List.not_mem_nil, or_false] at hc
    rcases hc with rfl | rfl | rfl | rfl | rfl | rfl | rfl | rfl | rfl | rfl <;> cases rest <;>
      simp_all [symbols, List.isPrefixOf]
  have hplain : ∀ c ∈ marks, isDigit c = false ∧ c ≠ '.' ∧ c.isAlpha = false ∧ c ≠ '"' ∧ c ≠ '\'' ∧
      isWordChar c = false := List.all_iff_forall_prop.mp (by decide)
  obtain ⟨hdigit, hpoint, hletter, hdouble, hsingle, hword⟩ := hplain c hc
  simp [Token.read?, hdigit, hpoint, mark?, hletter, hdouble, hsingle, hword, symbol?, hfind, hlength c hc]

theorem lexes_mark (hc : c ∈ marks)
    (hP : ∀ rest, P rest → c ∈ [':', '+', '-'] → ∀ d ∈ rest.head?, '=' ≠ d ∧ '>' ≠ d) :
    Lexes P [c] [symbol (String.singleton c)] := by
  have hspaces : ∀ c ∈ marks, c ∉ spaces := List.all_iff_forall_prop.mp (by decide)
  exact lexes_token (hspaces c hc) fun rest hrest => read?_mark hc (hP rest hrest)

/-- A colon with a blank behind it is a symbol of its own. -/
theorem Lexes.colon (h : Lexes P text ts) : Lexes P (':' :: ' ' :: text) (symbol ":" :: ts) := by
  have hcolon : Lexes (fun rest => rest.head? = some ' ') [':'] [symbol ":"] :=
    lexes_mark (by decide) fun rest hrest _ d hd => by
      rw [hrest] at hd
      cases hd
      decide
  exact hcolon.append h.blank fun _ _ => rfl

/-- Brackets and commas are symbols whatever follows. -/
theorem lexes_bracket (hc : c ∈ ['(', ')', '[', ']', '\x7b', '\x7d', ',']) :
    Lexes (fun _ => True) [c] [symbol (String.singleton c)] := by
  have hmarks : ∀ c ∈ ['(', ')', '[', ']', '\x7b', '\x7d', ','], c ∈ marks ∧ c ∉ [':', '+', '-'] :=
    List.all_iff_forall_prop.mp (by decide)
  exact lexes_mark (hmarks c hc).1 fun _ _ h => absurd h (hmarks c hc).2

/-- What begins with a letter that opens no quotation is a word. -/
theorem read?_letter (hletter : isWordChar c = true) (hdigit : isDigit c = false)
    (hmark : mark? (c :: cs) = none) : Token.read? (c :: cs) = word? (c :: cs) := by
  have hpoint : c ≠ '.' := by rintro rfl; exact absurd hletter (by decide)
  simp [Token.read?, hletter, hdigit, hmark, hpoint]

/-- A word is taken as a whole. -/
theorem word?_append {word : List Char} (hword : word.all isWordChar = true)
    (hrest : ∀ d ∈ rest.head?, isWordChar d = false) :
    word? (word ++ rest) =
      if Text.isKeyword (String.ofList word) then some (symbol (String.ofList word), rest)
      else if Text.isIdentifier (String.ofList word) then some (name word, rest) else none := by
  have hall : ∀ c ∈ word, isWordChar c = true := List.all_eq_true.mp hword
  have hnil : rest.takeWhile isWordChar = [] ∧ rest.dropWhile isWordChar = rest := by
    cases rest with
    | nil => exact ⟨rfl, rfl⟩
    | cons d rest => simp [hrest d rfl]
  simp only [word?, List.takeWhile_append_of_pos hall, List.dropWhile_append_of_pos hall, hnil.1, hnil.2,
    List.append_nil]

theorem Ends.isWordChar (h : Ends rest) : ∀ d ∈ rest.head?, isWordChar d = false := by
  have hmarks : ∀ c ∈ [',', ')', ']', '\x7d', ':', '+', '-'], Literal.isWordChar c = false :=
    List.all_iff_forall_prop.mp (by decide)
  exact fun d hd => hmarks d (h d hd)

/-- A word that is no mark of a quotation is one token. -/
theorem lexes_word {word : List Char} (hspaces : c ∉ spaces) (hdigit : isDigit c = false)
    (hword : (c :: word).all isWordChar = true) (hmark : ∀ rest, mark? (c :: word ++ rest) = none)
    (hP : ∀ rest, P rest → ∀ d ∈ rest.head?, isWordChar d = false)
    (ht : ∀ rest, (∀ d ∈ rest.head?, isWordChar d = false) → word? (c :: word ++ rest) = some (t, rest)) :
    Lexes P (c :: word) [t] := by
  refine lexes_token hspaces fun rest hrest => ?_
  have hletter := List.all_eq_true.mp hword c List.mem_cons_self
  exact (read?_letter hletter hdigit (hmark rest)).trans (ht rest (hP rest hrest))

/-- The constants that are words. -/
theorem lexes_constant {word : String} (h : word ∈ ["None", "True", "False"]) :
    Lexes Ends word.toList [symbol word] := by
  have hkeyword : ∀ word ∈ ["None", "True", "False"], Text.isKeyword word = true := by decide
  have hkey := hkeyword word h
  have htoken {c : Char} {cs : List Char} (hw : word.toList = c :: cs) (hc : c ∉ spaces)
      (hdigit : isDigit c = false) (hall : (c :: cs).all isWordChar = true)
      (hmark : ∀ rest, mark? (c :: cs ++ rest) = none) : Lexes Ends word.toList [symbol word] := by
    have hofList : String.ofList (c :: cs) = word := by rw [← hw, String.ofList_toList]
    rw [hw]
    refine lexes_word hc hdigit hall hmark (fun _ => Ends.isWordChar) fun rest hrest => ?_
    rw [word?_append hall hrest, hofList, if_pos hkey]
  simp only [List.mem_cons, List.not_mem_nil, or_false] at h
  rcases h with rfl | rfl | rfl
  · exact htoken (show "None".toList = ['N', 'o', 'n', 'e'] from rfl) (by decide)
      (by decide) (by decide) fun rest => by simp [mark?]
  · exact htoken (show "True".toList = ['T', 'r', 'u', 'e'] from rfl) (by decide)
      (by decide) (by decide) fun rest => by simp [mark?]
  · exact htoken (show "False".toList = ['F', 'a', 'l', 's', 'e'] from rfl) (by decide)
      (by decide) (by decide) fun rest => by simp [mark?]

/-- The names that stand in printed forms. -/
def printedNames : List (List Char) :=
  ["set", "Ellipsis", "inf", "nan", "infj", "nanj", "frozenset", "bytearray", "range", "mappingproxy",
   "functools", "partial"].map String.toList

theorem mark?_name {word : List Char} (h : word ∈ printedNames) (rest : List Char) :
    mark? (word ++ rest) = none := by
  simp only [printedNames, List.map_cons, List.map_nil, List.mem_cons, List.not_mem_nil, or_false] at h
  rcases h with rfl | rfl | rfl | rfl | rfl | rfl | rfl | rfl | rfl | rfl | rfl | rfl <;>
    cases rest <;> simp [mark?, Mark.ofLetters?]

/-- What is known of each of these names. -/
theorem printedNames_spec {word : List Char} (h : word ∈ printedNames) : word.all isWordChar = true ∧
    Text.isKeyword (String.ofList word) = false ∧ Text.isIdentifier (String.ofList word) = true ∧
    (∀ c ∈ word.head?, c ∉ spaces ∧ isDigit c = false) ∧ word ≠ [] ∧ IsClean word := by
  have hall : ∀ word ∈ printedNames, word.all isWordChar = true ∧
      Text.isKeyword (String.ofList word) = false ∧ Text.isIdentifier (String.ofList word) = true ∧
      (word.head?.all fun c => decide (c ∉ spaces ∧ isDigit c = false)) = true ∧ word ≠ [] ∧
      (word.all fun c => decide (32 ≤ c.toNat)) = true := by decide
  obtain ⟨hword, hkey, hid, hhead, hne, hclean⟩ := hall word h
  refine ⟨hword, hkey, hid, fun c hc => ?_, hne, isClean_of_all hclean⟩
  rw [hc] at hhead
  exact of_decide_eq_true hhead

theorem lexes_name {word : List Char} (h : word ∈ printedNames) :
    Lexes (fun rest => ∀ d ∈ rest.head?, isWordChar d = false) word [name word] := by
  obtain ⟨hword, hkey, hid, hhead, hne, -⟩ := printedNames_spec h
  obtain ⟨c, cs, rfl⟩ := List.exists_cons_of_ne_nil hne
  obtain ⟨hc, hdigit⟩ := hhead c rfl
  refine lexes_word hc hdigit hword (mark?_name h) (fun _ hrest => hrest) fun rest hrest => ?_
  rw [word?_append hword hrest, if_neg (by rw [hkey]; nofun), if_pos hid]

section Numerals

variable {t : Numeral}

theorem Numeral.text_head (ht : t.IsProper) : ∃ c cs, t.text = c :: cs ∧ isDigit c = true := by
  obtain ⟨c, ds, hcons⟩ : ∃ c ds, t.whole = c :: ds := by
    rcases ht.head with h | ⟨c, ds, h, -⟩
    · exact ⟨_, _, h⟩
    · exact ⟨_, _, h⟩
  have hdigit := ht.whole c (hcons ▸ List.mem_cons_self)
  exact ⟨c, _, by rw [Numeral.text, hcons]; rfl, hdigit⟩

/-- What begins with a digit is a number. -/
theorem lexes_number {v : Value} (hc : isDigit c = true)
    (h : ∀ rest, Ends rest → number? (c :: cs ++ rest) = some (v, rest)) :
    Lexes Ends (c :: cs) [number v] := by
  have hspaces : c ∉ spaces := by
    intro hmem
    have hall : ∀ c ∈ spaces, isDigit c = false := List.all_iff_forall_prop.mp (by decide)
    exact absurd (hall c hmem) (by rw [hc]; nofun)
  refine lexes_token hspaces fun rest hrest => ?_
  have hnumber := h rest hrest
  rw [List.cons_append] at hnumber ⊢
  simp [Token.read?, hc, hnumber]

theorem lexes_numeral (ht : t.IsProper) : Lexes Ends t.text
    [number (if t.isWhole then .int (natOfDigits t.whole) else .float (t.parts.value false))] := by
  obtain ⟨c, cs, hcons, hc⟩ := Numeral.text_head ht
  rw [hcons]
  exact lexes_number hc fun rest hrest => hcons ▸ number?_of_numeral ht hrest

theorem lexes_imaginary (ht : t.IsProper) : Lexes Ends (t.text ++ ['j'])
    [number (.complex (.zero false) (t.parts.value false))] := by
  obtain ⟨c, cs, hcons, hc⟩ := Numeral.text_head ht
  rw [hcons]
  refine lexes_number hc fun rest hrest => ?_
  have hread := number?_of_imaginary ht hrest
  rw [hcons] at hread
  simpa using hread

end Numerals

/-- What is read as a quotation is one token. -/
theorem lexes_quotation {q : Quotation} (hc : c = 'b' ∨ IsQuote c)
    (h : ∀ rest, Ends rest → Quotation.read? (c :: cs ++ rest) = some (q, rest)) :
    Lexes Ends (c :: cs) [quotation q] := by
  have hplain : c ∉ spaces ∧ isDigit c = false ∧ c ≠ '.' := by
    rcases hc with rfl | rfl | rfl <;> decide
  obtain ⟨hspaces, hdigit, hpoint⟩ := hplain
  refine lexes_token hspaces fun rest hrest => ?_
  have hread := h rest hrest
  have hmark : (mark? (c :: cs ++ rest)).isSome = true := by
    rw [Quotation.read?] at hread
    cases hm : mark? (c :: cs ++ rest) with
    | none => rw [hm] at hread; cases hread
    | some m => rfl
  rw [List.cons_append] at hread hmark ⊢
  simp [Token.read?, hdigit, hpoint, hmark, hread]

end MacroStubs.Literal
